import EightBit.Proofs.Machine.Trail

namespace EightBit

/-!
# Extending an instruction set

A run asks its instruction set for the routine of an opcode when it has fetched
that opcode, and for no other reason. So two sets that have the same routines for
the opcodes that a run fetches have the same run, whatever else is in them, and
routines installed for other opcodes change nothing. If an opcode of theirs is
fetched after all, the runs go together until it is.
-/

namespace InstructionSet

/-- The set with routines installed one after the other. -/
def extend
    (set : InstructionSet)
    (installations : List (UInt8 × Routine)) :
    InstructionSet :=
  installations.foldl (fun extended entry => extended.install entry.1 entry.2)
    set

/-- Installations for other opcodes do not affect the routine of an opcode. -/
theorem routine?_extend
    (set : InstructionSet)
    {installations : List (UInt8 × Routine)}
    {opcode : UInt8}
    (other : opcode ∉ installations.map Prod.fst) :
    (set.extend installations).routine? opcode = set.routine? opcode := by
  induction installations generalizing set with
  | nil =>
      rfl
  | cons entry rest inductionHypothesis =>
      rw [List.map_cons, List.mem_cons, not_or] at other
      have later :
          (set.extend (entry :: rest)).routine? opcode =
            (set.install entry.1 entry.2).routine? opcode :=
        inductionHypothesis (set.install entry.1 entry.2) other.2
      rw [later, routine?_install, if_neg other.1]

end InstructionSet

namespace Machine

/-- An attempt of a run fetches an opcode. -/
def Fetches
    (attempt : Machine × Sink)
    (opcode : UInt8) :
    Prop :=
  attempt.1.memory.read? attempt.1.counter = some opcode

instance (attempt : Machine × Sink) (opcode : UInt8) :
    Decidable (Fetches attempt opcode) :=
  inferInstanceAs (Decidable (_ = _))

/-- The opcodes that a run fetches, in order. -/
def fetched
    (set : InstructionSet)
    (machine : Machine)
    (sink : Sink) :
    List UInt8 :=
  (trail set machine sink).filterMap fun attempt =>
    attempt.1.memory.read? attempt.1.counter

/-- Two sets have the same routine, or both none, for what an attempt fetches. -/
def AgreesAt
    (set other : InstructionSet)
    (attempt : Machine × Sink) :
    Prop :=
  ∀ opcode,
    Fetches attempt opcode →
    other.routine? opcode = set.routine? opcode

section Congruence

variable
  {set other : InstructionSet}
  {machine : Machine}
  {sink : Sink}

/-- A step consults the set for the opcode that it fetches only. -/
theorem step_congr
    (agrees : AgreesAt set other (machine, sink)) :
    step other machine sink = step set machine sink := by
  have steps := steps_step set machine sink
  generalize step set machine sink = outcome at steps ⊢
  cases steps with
  | halted stopped =>
      exact (Steps.halted stopped).eq_step.symm
  | outside running beyond =>
      exact (Steps.outside running beyond).eq_step.symm
  | @unknown opcode running fetched missing =>
      have missingToo : other.routine? opcode = none :=
        (agrees opcode fetched).trans missing
      exact (Steps.unknown running fetched missingToo).eq_step.symm
  | @faulted opcode routine fault running fetched found refused =>
      have foundToo : other.routine? opcode = some routine :=
        (agrees opcode fetched).trans found
      exact (Steps.faulted running fetched foundToo refused).eq_step.symm
  | @executed opcode routine running fetched found succeeded =>
      have foundToo : other.routine? opcode = some routine :=
        (agrees opcode fetched).trans found
      exact (Steps.executed running fetched foundToo succeeded).eq_step.symm

/-- The machine that a run starts from is the first in its trail, if it runs. -/
theorem mem_trailFor_succ
    (budget : Nat)
    (running : machine.state = .running) :
    (machine, sink) ∈ trailFor (budget + 1) set machine sink := by
  simp only [trailFor, running, List.mem_cons_self]

/-- Sets that agree along the trail of one make the same first step. -/
theorem step_congr_of_trailFor
    {budget : Nat}
    (agree :
      ∀ attempt ∈ trailFor (budget + 1) set machine sink,
        AgreesAt set other attempt) :
    step other machine sink = step set machine sink := by
  cases state : machine.state with
  | halted halt =>
      rw [step_of_halted state, step_of_halted state]
  | running =>
      exact step_congr (agree _ (mem_trailFor_succ budget state))

/-- Sets that agree along the trail of one make the same steps. -/
theorem runFor_congr
    {budget : Nat}
    (agree :
      ∀ attempt ∈ trailFor budget set machine sink,
        AgreesAt set other attempt) :
    runFor budget other machine sink = runFor budget set machine sink ∧
      trailFor budget other machine sink =
        trailFor budget set machine sink := by
  induction budget generalizing machine sink with
  | zero =>
      exact ⟨rfl, rfl⟩
  | succ budget inductionHypothesis =>
      have same := step_congr_of_trailFor agree
      by_cases goesOn : (step set machine sink).result = .ok .running
      · have goesOnToo : (step other machine sink).result = .ok .running := by
          rwa [same]
        rw [trailFor_of_goesOn _ goesOn] at agree ⊢
        obtain ⟨sameRun, sameTrail⟩ :=
          inductionHypothesis fun attempt later =>
            agree attempt (List.mem_cons_of_mem _ later)
        rw [runFor_of_goesOn goesOn, runFor_of_goesOn goesOnToo,
          trailFor_of_goesOn _ goesOnToo, same, sameRun, sameTrail]
        exact ⟨rfl, rfl⟩
      · have stopsToo : (step other machine sink).result ≠ .ok .running := by
          rwa [same]
        rw [runFor_of_stops goesOn, runFor_of_stops stopsToo]
        refine ⟨same, ?_⟩
        cases state : machine.state with
        | halted halt =>
            simp only [trailFor, state]
        | running =>
            rw [trailFor_of_stops _ state goesOn,
              trailFor_of_stops _ state stopsToo]

/-- Sets that agree along the trail of one have the same loop. -/
theorem Runs.congr
    {count : Nat}
    {outcome : Outcome State}
    (runs : Runs set machine sink count outcome)
    (agree :
      ∀ attempt ∈ trailFor count set machine sink,
        AgreesAt set other attempt) :
    Runs other machine sink count outcome := by
  induction runs with
  | @stop machine sink stops =>
      have same := step_congr_of_trailFor agree
      rw [← same] at stops ⊢
      exact .stop stops
  | @next machine sink count outcome goesOn rest inductionHypothesis =>
      have same := step_congr_of_trailFor agree
      rw [trailFor_of_goesOn _ goesOn] at agree
      have restToo :=
        inductionHypothesis fun attempt later =>
          agree attempt (List.mem_cons_of_mem _ later)
      rw [← same] at goesOn restToo ⊢
      exact .next goesOn restToo

/-- A trail starts with the machine that the run starts from. -/
theorem eq_of_trailFor_eq_cons
    {budget : Nat}
    {first : Machine × Sink}
    {rest : List (Machine × Sink)}
    (shape : trailFor budget set machine sink = first :: rest) :
    first = (machine, sink) := by
  unfold trailFor at shape
  split at shape
  · cases shape
  · split at shape
    · cases shape
    · exact (List.cons.inj shape).1.symm

/-- A trail goes on only behind a step after which the machine does. -/
theorem goesOn_of_trailFor_eq_cons_cons
    {budget : Nat}
    {first second : Machine × Sink}
    {rest : List (Machine × Sink)}
    (shape : trailFor budget set machine sink = first :: second :: rest) :
    (step set machine sink).result = .ok .running ∧
      ∃ smaller,
        trailFor smaller set (step set machine sink).machine
            (step set machine sink).sink =
          second :: rest := by
  cases budget with
  | zero =>
      cases shape
  | succ budget =>
      by_cases goesOn : (step set machine sink).result = .ok .running
      · rw [trailFor_of_goesOn _ goesOn] at shape
        exact ⟨goesOn, budget, (List.cons.inj shape).2⟩
      · cases state : machine.state with
        | halted halt =>
            simp only [trailFor, state] at shape
            cases shape
        | running =>
            rw [trailFor_of_stops _ state goesOn] at shape
            cases (List.cons.inj shape).2

/--
Sets that agree along the first part of the trail of one make the same steps up
to the attempt behind that part.
-/
theorem runFor_congr_of_trailFor_eq
    {budget : Nat}
    {before later : List (Machine × Sink)}
    {attempt : Machine × Sink}
    (shape :
      trailFor budget set machine sink = before ++ attempt :: later)
    (agree : ∀ earlier ∈ before, AgreesAt set other earlier) :
    (∀ count ≤ before.length,
        runFor count other machine sink = runFor count set machine sink) ∧
      (runFor before.length set machine sink).machine = attempt.1 ∧
      (runFor before.length set machine sink).sink = attempt.2 := by
  induction before generalizing budget machine sink with
  | nil =>
      obtain rfl := eq_of_trailFor_eq_cons shape
      refine ⟨fun count none => ?_, rfl, rfl⟩
      obtain rfl := Nat.le_zero.mp none
      rfl
  | cons first rest inductionHypothesis =>
      obtain rfl := eq_of_trailFor_eq_cons shape
      -- There is an attempt behind the first one, so the loop has gone on.
      obtain ⟨second, behind, follows⟩ :
          ∃ second behind, rest ++ attempt :: later = second :: behind :=
        List.exists_cons_of_ne_nil (by simp)
      rw [List.cons_append, follows] at shape
      obtain ⟨goesOn, smaller, shapeOfRest⟩ :=
        goesOn_of_trailFor_eq_cons_cons shape
      have same : step other machine sink = step set machine sink :=
        step_congr (agree _ (List.mem_cons_self ..))
      have goesOnToo : (step other machine sink).result = .ok .running := by
        rwa [same]
      obtain ⟨sameSteps, reached, written⟩ :=
        inductionHypothesis (shapeOfRest.trans follows.symm)
          fun earlier inRest => agree earlier (List.mem_cons_of_mem _ inRest)
      rw [List.length_cons, runFor_of_goesOn goesOn]
      refine ⟨fun count within => ?_, reached, written⟩
      cases count with
      | zero =>
          rfl
      | succ count =>
          rw [runFor_of_goesOn goesOn, runFor_of_goesOn goesOnToo, same,
            sameSteps count (Nat.le_of_succ_le_succ within)]

end Congruence

/--
Two sets lead to the same outcome by the same trail, and the loop of either makes
as many steps as that of the other.
-/
structure RunsAlike
    (set other : InstructionSet)
    (machine : Machine)
    (sink : Sink) :
    Prop where
  run : run other machine sink = run set machine sink
  trail : trail other machine sink = trail set machine sink
  loop :
    ∃ count,
      Runs set machine sink count (Machine.run set machine sink) ∧
        Runs other machine sink count (Machine.run set machine sink)

theorem runsAlike_of_agree
    {set other : InstructionSet}
    (neverRetreats : set.NeverRetreats)
    {machine : Machine}
    {sink : Sink}
    (agree :
      ∀ attempt ∈ trail set machine sink, AgreesAt set other attempt) :
    RunsAlike set other machine sink := by
  obtain ⟨sameRun, sameTrail⟩ := runFor_congr agree
  obtain ⟨count, enough, runs⟩ := exists_runs_run neverRetreats machine sink
  rw [trail, trailFor_of_runs runs enough] at agree
  exact ⟨sameRun, sameTrail, count, runs, runs.congr agree⟩

theorem mem_fetched
    {set : InstructionSet}
    {machine : Machine}
    {sink : Sink}
    {opcode : UInt8} :
    opcode ∈ fetched set machine sink ↔
      ∃ attempt ∈ trail set machine sink, Fetches attempt opcode :=
  List.mem_filterMap

/-- An attempt that fetches nothing to which routines are added agrees with them. -/
theorem agreesAt_extend
    (set : InstructionSet)
    {installations : List (UInt8 × Routine)}
    {attempt : Machine × Sink}
    (untouched :
      ∀ opcode ∈ installations.map Prod.fst, ¬Fetches attempt opcode) :
    AgreesAt set (set.extend installations) attempt := by
  intro opcode fetches
  refine set.routine?_extend fun installed => ?_
  exact untouched opcode installed fetches

/-- Where some of a number of opcodes is fetched, there is a first attempt to. -/
theorem exists_first_fetch
    {opcodes : List UInt8}
    {attempts : List (Machine × Sink)}
    (fetched :
      ∃ opcode ∈ opcodes, ∃ attempt ∈ attempts, Fetches attempt opcode) :
    ∃ before attempt later,
      attempts = before ++ attempt :: later ∧
        (∀ opcode ∈ opcodes,
          ∀ earlier ∈ before, ¬Fetches earlier opcode) ∧
        ∃ opcode ∈ opcodes, Fetches attempt opcode := by
  let touches : Machine × Sink → Bool := fun attempt =>
    opcodes.any fun opcode => decide (Fetches attempt opcode)
  have touches_iff :
      ∀ attempt,
        touches attempt = true ↔ ∃ opcode ∈ opcodes, Fetches attempt opcode := by
    intro attempt
    simp [touches]
  obtain ⟨opcode, listed, attempt, tried, fetches⟩ := fetched
  have isFound : (attempts.find? touches).isSome :=
    List.find?_isSome.mpr
      ⟨attempt, tried, (touches_iff attempt).mpr ⟨opcode, listed, fetches⟩⟩
  obtain ⟨first, found⟩ := Option.isSome_iff_exists.mp isFound
  obtain ⟨touched, before, later, shape, untouched⟩ :=
    List.find?_eq_some_iff_append.mp found
  refine ⟨before, first, later, shape, ?_, (touches_iff first).mp touched⟩
  intro opcode listed earlier inFront fetchesEarlier
  have touchesEarlier :=
    (touches_iff earlier).mpr ⟨opcode, listed, fetchesEarlier⟩
  have avoids := untouched earlier inFront
  simp [touchesEarlier] at avoids

/--
Let one set have built-in routines only and another set be any. If they have the
same routine, or both none, for each opcode that a run under the first fetches,
their runs are the same. In particular, routines may be installed for any opcodes
that are not fetched. If one of these is, there is a first attempt that fetches
one; up to it, the two sets make the same steps.
-/
theorem run_determined_by_fetched
    {set : InstructionSet}
    (usesBuiltIns : set.UsesBuiltIns)
    (machine : Machine)
    (sink : Sink) :
    (∀ other : InstructionSet,
        (∀ opcode ∈ fetched set machine sink,
          other.routine? opcode = set.routine? opcode) →
        RunsAlike set other machine sink) ∧
      ∀ installations : List (UInt8 × Routine),
        ((∀ opcode ∈ installations.map Prod.fst,
            opcode ∉ fetched set machine sink) →
          RunsAlike set (set.extend installations) machine sink) ∧
        ((∃ opcode ∈ installations.map Prod.fst,
            opcode ∈ fetched set machine sink) →
          ∃ before attempt later,
            trail set machine sink = before ++ attempt :: later ∧
              (∀ opcode ∈ installations.map Prod.fst,
                ∀ earlier ∈ before, ¬Fetches earlier opcode) ∧
              (∃ opcode ∈ installations.map Prod.fst,
                Fetches attempt opcode) ∧
              (∀ count ≤ before.length,
                runFor count (set.extend installations) machine sink =
                  runFor count set machine sink) ∧
              (runFor before.length set machine sink).machine = attempt.1 ∧
              (runFor before.length set machine sink).sink = attempt.2) := by
  have neverRetreats := usesBuiltIns.neverRetreats
  refine ⟨fun other agree => ?_, fun installations => ⟨?_, ?_⟩⟩
  · refine runsAlike_of_agree neverRetreats fun attempt tried opcode fetches => ?_
    exact agree opcode (mem_fetched.mpr ⟨attempt, tried, fetches⟩)
  · intro untouched
    refine runsAlike_of_agree neverRetreats fun attempt tried => ?_
    refine agreesAt_extend set fun opcode installed fetches => ?_
    exact untouched opcode installed (mem_fetched.mpr ⟨attempt, tried, fetches⟩)
  · rintro ⟨opcode, installed, isFetched⟩
    obtain ⟨before, attempt, later, shape, untouched, touched⟩ :=
      exists_first_fetch ⟨opcode, installed, mem_fetched.mp isFetched⟩
    have together :=
      runFor_congr_of_trailFor_eq shape fun earlier inFront =>
        agreesAt_extend set fun opcode installed =>
          untouched opcode installed earlier inFront
    exact ⟨before, attempt, later, shape, untouched, touched, together⟩

/-- A routine that starts the program again, and does so for ever. -/
def startOver : Routine :=
  fun machine sink => ⟨.ok (), { machine with counter := 0 }, sink, []⟩

/-- A machine in front of code with a stray byte behind its halt. -/
def beforeStray : Machine :=
  { initial with memory := Memory.ofBytes [130, 0, 8, 71, 0, 1, 255] }

/--
A routine for the stray byte, which is not fetched, changes nothing; one for the
printing opcode, which is fetched, changes nothing up to there.
-/
theorem run_determined_by_fetched_stray :
    InstructionSet.standard.UsesBuiltIns ∧
      fetched .standard beforeStray Sink.unlimited = [130, 71, 1] ∧
      (run (InstructionSet.standard.extend [(255, startOver)]) beforeStray
          Sink.unlimited).sink.accepted =
        [56, 10] ∧
      ∃ before attempt later,
        trail .standard beforeStray Sink.unlimited =
            before ++ attempt :: later ∧
          Fetches attempt 71 ∧
          runFor before.length
              (InstructionSet.standard.extend [(71, startOver)]) beforeStray
              Sink.unlimited =
            runFor before.length .standard beforeStray Sink.unlimited := by
  have opcodes : fetched .standard beforeStray Sink.unlimited = [130, 71, 1] := by
    decide +kernel
  obtain ⟨_, extended⟩ :=
    run_determined_by_fetched InstructionSet.usesBuiltIns_standard beforeStray
      Sink.unlimited
  have alike :=
    (extended [(255, startOver)]).1 (by simp [opcodes])
  obtain ⟨before, attempt, later, shape, _, touched, together, _⟩ :=
    (extended [(71, startOver)]).2 (by simp [opcodes])
  refine ⟨InstructionSet.usesBuiltIns_standard, opcodes, ?_, before, attempt,
    later, shape, by simpa using touched, together _ (Nat.le_refl _)⟩
  rw [alike.run]
  decide +kernel

end Machine

end EightBit
