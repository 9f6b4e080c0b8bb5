import EightBit.Console.Basic
import EightBit.Proofs.Machine.BuiltInStep
import EightBit.Proofs.Machine.Trail

namespace EightBit

/-!
# Tracing observes and does nothing else

A machine with built-in routines that traces makes the steps of the machine that
does not, and gives one more notice in front of each: the snapshot of the machine
from which the step is taken. Over a whole run these are the snapshots of the
trail, in order, and what the silent machine has to tell comes behind them.
-/

namespace Outcome

/-- The same outcome for a machine that traces, behind the given notices. -/
def traced
    (outcome : Outcome State)
    (lines : List Notice) :
    Outcome State where
  result := outcome.result
  machine := outcome.machine.setTracing true
  sink := outcome.sink
  notices := lines ++ outcome.notices

end Outcome

namespace Machine

/-- The notices of a trace that follows a trail. -/
def traceOf (attempts : List (Machine × Sink)) : List Notice :=
  attempts.map fun attempt => .trace attempt.1.snapshot

theorem traceNotices_of_silent
    {machine : Machine}
    (silent : machine.tracing = false) :
    machine.traceNotices = [] := by
  simp [traceNotices, silent]

/-- Traced or silent, a step follows the same rule. -/
theorem BuiltInSteps.setTracing
    {set : InstructionSet}
    {machine : Machine}
    {sink : Sink}
    {outcome : Outcome State}
    (steps : BuiltInSteps set machine sink outcome)
    (running : machine.state = .running)
    (silent : machine.tracing = false) :
    BuiltInSteps set (machine.setTracing true) sink
      (outcome.traced [.trace machine.snapshot]) := by
  -- With the flag a literal, what is told in front of a step computes.
  rcases machine with
    ⟨memory, registers, counter, flags, instruction, state, tracing⟩
  obtain rfl : tracing = false := silent
  cases steps with
  | halted stopped =>
      rw [running] at stopped
      cases stopped
  | outside running beyond =>
      exact .outside running beyond
  | unknown running fetched missing =>
      exact .unknown running fetched missing
  | refused running fetched found refuses =>
      exact .refused running fetched found refuses
  | cutOff running fetched found performs full =>
      exact .cutOff running fetched found performs full
  | performed running fetched found performs accepts =>
      exact .performed running fetched found performs accepts

section Step

variable
  {set : InstructionSet}
  (usesBuiltIns : set.UsesBuiltIns)
  {machine : Machine}
  {sink : Sink}

include usesBuiltIns

/-- Where the loop goes on, nothing has been said but the trace line. -/
theorem notices_of_goesOn
    (goesOn : (step set machine sink).result = .ok .running) :
    (step set machine sink).notices = machine.traceNotices := by
  have steps := builtInSteps_step usesBuiltIns machine sink
  generalize step set machine sink = outcome at goesOn steps ⊢
  cases steps with
  | performed =>
      rfl
  | halted | outside | unknown | refused | cutOff =>
      cases goesOn

/-- A traced step is the silent one behind a snapshot of where it starts. -/
theorem step_setTracing
    (running : machine.state = .running)
    (silent : machine.tracing = false)
    (sink : Sink) :
    step set (machine.setTracing true) sink =
      (step set machine sink).traced [.trace machine.snapshot] :=
  ((builtInSteps_step usesBuiltIns machine sink).setTracing running
    silent).eq_step.symm

/-- A traced run is the silent one behind the snapshots of its trail. -/
theorem run_setTracing
    (machine : Machine)
    (sink : Sink)
    (silent : machine.tracing = false) :
    run set (machine.setTracing true) sink =
        (run set machine sink).traced (traceOf (trail set machine sink)) ∧
      trail set (machine.setTracing true) sink =
        (trail set machine sink).map fun attempt =>
          (attempt.1.setTracing true, attempt.2) := by
  have neverRetreats := usesBuiltIns.neverRetreats
  induction machine, sink using run_induction neverRetreats with
  | stop machine sink stops =>
      rw [run_of_stops neverRetreats stops]
      cases state : machine.state with
      | halted halt =>
          have tracedHalted : (machine.setTracing true).state = .halted halt :=
            state
          have tracedStep := step_of_halted tracedHalted set sink
          rw [run_of_stops neverRetreats (by simp [tracedStep]), tracedStep,
            step_of_halted state, trail_of_halted state,
            trail_of_halted tracedHalted]
          exact ⟨rfl, rfl⟩
      | running =>
          have tracedRunning : (machine.setTracing true).state = .running :=
            state
          have traced := step_setTracing usesBuiltIns state silent sink
          have tracedStops :
              (step set (machine.setTracing true) sink).result ≠
                .ok .running := by
            rwa [traced]
          rw [run_of_stops neverRetreats tracedStops, traced,
            trail_of_stops neverRetreats state stops,
            trail_of_stops neverRetreats tracedRunning tracedStops]
          exact ⟨rfl, rfl⟩
  | next machine sink goesOn inductionHypothesis =>
      have running := running_of_goesOn goesOn
      have traced := step_setTracing usesBuiltIns running silent sink
      have tracedGoesOn :
          (step set (machine.setTracing true) sink).result = .ok .running := by
        rwa [traced]
      have quiet : (step set machine sink).notices = [] :=
        (notices_of_goesOn usesBuiltIns goesOn).trans
          (traceNotices_of_silent silent)
      obtain ⟨sameRun, sameTrail⟩ :=
        inductionHypothesis ((tracing_step usesBuiltIns).trans silent)
      rw [run_of_goesOn neverRetreats tracedGoesOn,
        run_of_goesOn neverRetreats goesOn,
        trail_of_goesOn neverRetreats tracedGoesOn,
        trail_of_goesOn neverRetreats goesOn, traced]
      simp only [Outcome.traced, sameRun, sameTrail, quiet]
      exact ⟨rfl, rfl⟩

/-- A run never turns tracing on or off. -/
theorem tracing_run
    (machine : Machine)
    (sink : Sink) :
    (run set machine sink).machine.tracing = machine.tracing :=
  run_preserves usesBuiltIns.neverRetreats
    (fun _ _ before => (tracing_step usesBuiltIns).trans before) rfl

end Step

end Machine

namespace Console

/-- Without colors a diagnostic line is its text, in minimal mode and out of it. -/
theorem diagnosticLine_of_colorless
    {console : Console}
    (colorless : console.colored = false)
    (text : String) :
    console.diagnosticLine text = text ++ "\n" := by
  simp [diagnosticLine, diagnostic, paint, colorless, Style.alignRight]

theorem notices_append
    (console : Console)
    (first second : List Notice) :
    console.notices (first ++ second) =
      console.notices first ++ console.notices second := by
  simp [notices, String.join_append]

/-- Without colors a trace is shown as the trace lines, each on its own line. -/
theorem notices_traceOf
    {console : Console}
    (colorless : console.colored = false)
    (attempts : List (Machine × Sink)) :
    console.notices (Machine.traceOf attempts) =
      String.join
        (attempts.map fun attempt => attempt.1.snapshot.line ++ "\n") := by
  have shown :
      ∀ attempt : Machine × Sink,
        console.diagnosticLine (Notice.trace attempt.1.snapshot).text =
          attempt.1.snapshot.line ++ "\n" :=
    fun _ => diagnosticLine_of_colorless colorless _
  simp only [notices, Machine.traceOf, List.map_map, Function.comp_def, shown]

end Console

namespace Machine

/--
With built-in routines, a machine that traces and one that does not return the
same and write the same to any sink, and end up the same but for the flag. They
attempt the same instructions, as many as the loop makes steps. Without colors
the one that traces tells the trace line of the machine in front of each attempt,
in order, and then what the other tells; from a halted machine there is nothing.
-/
theorem tracing_observes_only
    {set : InstructionSet}
    (usesBuiltIns : set.UsesBuiltIns)
    (machine : Machine)
    (sink : Sink) :
    (run set (machine.setTracing true) sink).result =
        (run set (machine.setTracing false) sink).result ∧
      (run set (machine.setTracing true) sink).sink =
        (run set (machine.setTracing false) sink).sink ∧
      (run set (machine.setTracing true) sink).machine =
        (run set (machine.setTracing false) sink).machine.setTracing true ∧
      (run set (machine.setTracing false) sink).machine.tracing = false ∧
      trail set (machine.setTracing true) sink =
        ((trail set (machine.setTracing false) sink).map fun attempt =>
          (attempt.1.setTracing true, attempt.2)) ∧
      (machine.state = .running →
        Runs set (machine.setTracing true) sink
          (trail set (machine.setTracing true) sink).length
          (run set (machine.setTracing true) sink)) ∧
      (∀ console : Console,
        console.colored = false →
        console.notices (run set (machine.setTracing true) sink).notices =
          String.join
              ((trail set (machine.setTracing true) sink).map fun attempt =>
                attempt.1.snapshot.line ++ "\n") ++
            console.notices
              (run set (machine.setTracing false) sink).notices) ∧
      ∀ halt,
        machine.state = .halted halt →
        (run set (machine.setTracing true) sink).notices = [] := by
  have neverRetreats := usesBuiltIns.neverRetreats
  obtain ⟨sameRun, sameTrail⟩ :=
    run_setTracing usesBuiltIns (machine.setTracing false) sink rfl
  change run set (machine.setTracing true) sink = _ at sameRun
  change trail set (machine.setTracing true) sink = _ at sameTrail
  refine ⟨?_, ?_, ?_, ?_, sameTrail, ?_, ?_, ?_⟩
  · rw [sameRun]
    rfl
  · rw [sameRun]
    rfl
  · rw [sameRun]
    rfl
  · exact tracing_run usesBuiltIns _ sink
  · intro running
    exact runs_length_trail neverRetreats running
  · intro console colorless
    have lines :
        traceOf (trail set (machine.setTracing true) sink) =
          traceOf (trail set (machine.setTracing false) sink) := by
      rw [sameTrail, traceOf, traceOf, List.map_map]
      rfl
    rw [← Console.notices_traceOf colorless, lines, ← Console.notices_append,
      sameRun]
    rfl
  · intro halt halted
    have tracedHalted : (machine.setTracing true).state = .halted halt :=
      halted
    have stepped := step_of_halted tracedHalted set sink
    rw [run_of_stops neverRetreats (by simp [stepped]), stepped]

/-- A machine in front of one load, with nothing behind it. -/
def beforeLoad : Machine :=
  { initial with memory := Memory.ofBytes [130, 0, 8] }

/-- Two trace lines and the unknown instruction that the second one shows. -/
theorem tracing_observes_only_to_unknown :
    InstructionSet.standard.UsesBuiltIns ∧
      Console.notices ⟨false, false⟩
          (run .standard (beforeLoad.setTracing true)
            Sink.unlimited).notices =
        "TRACE: 00 | 82 00 08 | 00 00 00 00 00 00 00 F4\n" ++
          "TRACE: 03 | 00 00 00 | 08 00 00 00 00 00 00 F4\n" ++
          "Unknown instruction 0b00000000 at address 0x03\n" := by
  refine ⟨InstructionSet.usesBuiltIns_standard, ?_⟩
  obtain ⟨_, _, _, _, _, _, lines, _⟩ :=
    tracing_observes_only InstructionSet.usesBuiltIns_standard beforeLoad
      Sink.unlimited
  rw [lines ⟨false, false⟩ rfl]
  decide +kernel

end Machine

end EightBit
