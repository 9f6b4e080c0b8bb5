import EightBit.Machine.Trail
import EightBit.Proofs.Machine.Loop

namespace EightBit.Machine

/-!
# Runs and trails by their first step

A run is its first step, and behind a step that goes on the run from there; the
trail of the run grows with it. The budgets in the definitions do not show in
these equations, as long as no routine moves the program counter back. Whatever
holds where the loop stops, and is carried back over a step that goes on, holds
of every machine and sink.
-/

section Progress

variable
  {set : InstructionSet}
  (neverRetreats : set.NeverRetreats)
  {machine : Machine}
  {sink : Sink}

include neverRetreats

/-- Induction along the loop, from where it stops back to where it starts. -/
@[elab_as_elim]
theorem run_induction
    {motive : Machine → Sink → Prop}
    (stop :
      ∀ machine sink,
        (step set machine sink).result ≠ .ok .running →
        motive machine sink)
    (next :
      ∀ machine sink,
        (step set machine sink).result = .ok .running →
        motive (step set machine sink).machine (step set machine sink).sink →
        motive machine sink)
    (machine : Machine)
    (sink : Sink) :
    motive machine sink := by
  obtain ⟨count, -, runs⟩ := exists_runs_run neverRetreats machine sink
  generalize run set machine sink = outcome at runs
  induction runs with
  | stop stops =>
      exact stop _ _ stops
  | next goesOn rest inductionHypothesis =>
      exact next _ _ goesOn inductionHypothesis

theorem run_of_stops
    (stops : (step set machine sink).result ≠ .ok .running) :
    run set machine sink = step set machine sink :=
  ((exists_runs_iff neverRetreats).mp ⟨1, .stop stops⟩).symm

theorem run_of_goesOn
    (goesOn : (step set machine sink).result = .ok .running) :
    run set machine sink =
      (run set (step set machine sink).machine
        (step set machine sink).sink).after
        (step set machine sink).notices := by
  obtain ⟨count, _, rest⟩ :=
    exists_runs_run neverRetreats (step set machine sink).machine
      (step set machine sink).sink
  exact
    ((exists_runs_iff neverRetreats).mp ⟨count + 1, .next goesOn rest⟩).symm

/-- What every step preserves, a run preserves. -/
@[elab_as_elim]
theorem run_preserves
    {property : Machine → Prop}
    (preserved :
      ∀ machine sink,
        property machine →
        property (step set machine sink).machine)
    (holds : property machine) :
    property (run set machine sink).machine := by
  induction machine, sink using run_induction neverRetreats with
  | stop machine sink stops =>
      rw [run_of_stops neverRetreats stops]
      exact preserved machine sink holds
  | next machine sink goesOn inductionHypothesis =>
      rw [run_of_goesOn neverRetreats goesOn]
      exact inductionHypothesis (preserved machine sink holds)

end Progress

section Trail

variable
  {set : InstructionSet}
  {machine : Machine}
  {sink : Sink}

/-- A step that succeeds returns the state in which it leaves the machine. -/
theorem state_of_result
    {state : State}
    (succeeded : (step set machine sink).result = .ok state) :
    (step set machine sink).machine.state = state := by
  have steps := steps_step set machine sink
  generalize step set machine sink = outcome at succeeded steps ⊢
  cases steps with
  | halted stopped =>
      exact stopped.trans (Except.ok.inj succeeded)
  | outside running beyond =>
      cases succeeded
  | unknown running fetched missing =>
      exact Except.ok.inj succeeded
  | faulted running fetched found refused =>
      cases succeeded
  | executed running fetched found returned =>
      exact Except.ok.inj succeeded

/-- A step that leaves the machine running has found it running. -/
theorem running_of_goesOn
    (goesOn : (step set machine sink).result = .ok .running) :
    machine.state = .running := by
  cases state : machine.state with
  | running =>
      rfl
  | halted halt =>
      rw [step_of_halted state] at goesOn
      cases goesOn

theorem trailFor_of_goesOn
    (budget : Nat)
    (goesOn : (step set machine sink).result = .ok .running) :
    trailFor (budget + 1) set machine sink =
      (machine, sink) ::
        trailFor budget set (step set machine sink).machine
          (step set machine sink).sink := by
  simp only [trailFor, running_of_goesOn goesOn, goesOn]

theorem trailFor_of_stops
    (budget : Nat)
    (running : machine.state = .running)
    (stops : (step set machine sink).result ≠ .ok .running) :
    trailFor (budget + 1) set machine sink = [(machine, sink)] := by
  -- The overlapping match takes its last arm because of `stops`.
  simp only [trailFor, running]

/-- A trail no longer grows with a budget in which the loop ends. -/
theorem trailFor_of_runs
    {count budget : Nat}
    {outcome : Outcome State}
    (runs : Runs set machine sink count outcome)
    (enough : count ≤ budget) :
    trailFor budget set machine sink = trailFor count set machine sink := by
  induction runs generalizing budget with
  | @stop machine sink stops =>
      obtain ⟨budget, rfl⟩ := Nat.exists_eq_add_of_le' enough
      cases state : machine.state with
      | running =>
          rw [trailFor_of_stops _ state stops, trailFor_of_stops _ state stops]
      | halted halt =>
          simp only [trailFor, state]
  | @next machine sink count outcome goesOn rest inductionHypothesis =>
      cases budget with
      | zero =>
          exact (Nat.not_succ_le_zero count enough).elim
      | succ budget =>
          rw [trailFor_of_goesOn _ goesOn, trailFor_of_goesOn _ goesOn,
            inductionHypothesis (Nat.le_of_succ_le_succ enough)]

section Unbudgeted

variable (neverRetreats : set.NeverRetreats)

include neverRetreats

theorem trail_of_goesOn
    (goesOn : (step set machine sink).result = .ok .running) :
    trail set machine sink =
      (machine, sink) ::
        trail set (step set machine sink).machine
          (step set machine sink).sink := by
  obtain ⟨count, enough, rest⟩ :=
    exists_runs_run neverRetreats (step set machine sink).machine
      (step set machine sink).sink
  obtain ⟨allCount, allEnough, runs⟩ :=
    exists_runs_run neverRetreats machine sink
  obtain rfl : allCount = count + 1 :=
    (runs.unique (.next goesOn rest)).1
  rw [trail, trailFor_of_runs runs allEnough, trailFor_of_goesOn _ goesOn,
    trail, trailFor_of_runs rest enough]

theorem trail_of_stops
    (running : machine.state = .running)
    (stops : (step set machine sink).result ≠ .ok .running) :
    trail set machine sink = [(machine, sink)] := by
  obtain ⟨count, enough, runs⟩ := exists_runs_run neverRetreats machine sink
  obtain rfl : count = 1 := (runs.unique (.stop stops)).1
  rw [trail, trailFor_of_runs runs enough, trailFor_of_stops 0 running stops]

/-- The trail of a running machine starts with that machine. -/
theorem exists_trail_eq_cons
    (running : machine.state = .running) :
    ∃ later, trail set machine sink = (machine, sink) :: later := by
  by_cases goesOn : (step set machine sink).result = .ok .running
  · exact ⟨_, trail_of_goesOn neverRetreats goesOn⟩
  · exact ⟨[], trail_of_stops neverRetreats running goesOn⟩

/-- A run of a running machine makes as many steps as its trail is long. -/
theorem runs_length_trail
    (running : machine.state = .running) :
    Runs set machine sink (trail set machine sink).length
      (run set machine sink) := by
  induction machine, sink using run_induction neverRetreats with
  | stop machine sink stops =>
      rw [trail_of_stops neverRetreats running stops,
        run_of_stops neverRetreats stops]
      exact .stop stops
  | next machine sink goesOn inductionHypothesis =>
      rw [trail_of_goesOn neverRetreats goesOn,
        run_of_goesOn neverRetreats goesOn]
      exact .next goesOn (inductionHypothesis (state_of_result goesOn))

/-- What every step preserves holds wherever a run attempts an instruction. -/
theorem trail_preserves
    {property : Machine → Prop}
    (preserved :
      ∀ machine sink,
        property machine →
        property (step set machine sink).machine)
    (holds : property machine) :
    ∀ attempt ∈ trail set machine sink, property attempt.1 := by
  induction machine, sink using run_induction neverRetreats with
  | stop machine sink stops =>
      cases state : machine.state with
      | halted halt =>
          simp [trail_of_halted state]
      | running =>
          simpa [trail_of_stops neverRetreats state stops] using holds
  | next machine sink goesOn inductionHypothesis =>
      rw [trail_of_goesOn neverRetreats goesOn]
      intro attempt member
      rcases List.mem_cons.mp member with isFirst | inRest
      · subst attempt
        exact holds
      · exact
          inductionHypothesis (preserved machine sink holds) attempt inRest

end Unbudgeted

end Trail

end EightBit.Machine
