import EightBit.Proofs.Machine.Step

namespace EightBit

/-!
# Runs without a budget

`Machine.Runs` is the loop itself: step until the machine halts or an
instruction faults, and count the steps. No routine that leaves the program
counter where it was, or moves it on, can keep the loop going: every step that
goes on starts inside memory and ends further up. Hence the loop ends, within
the budget of `Machine.run`, and with the outcome of `Machine.run`.
-/

/-- No routine of the set moves the program counter back. -/
def InstructionSet.NeverRetreats (set : InstructionSet) : Prop :=
  ∀ opcode routine,
    set.routine? opcode = some routine →
    ∀ machine sink,
      machine.counter ≤ (routine machine sink).machine.counter

/-- A set of built-in routines never moves the program counter back. -/
theorem InstructionSet.UsesBuiltIns.neverRetreats
    {set : InstructionSet}
    (usesBuiltIns : set.UsesBuiltIns) :
    set.NeverRetreats := by
  intro opcode routine found machine sink
  obtain ⟨builtIn, rfl⟩ := usesBuiltIns opcode routine found
  simp

namespace Machine

/-- The loop of steps from a machine and a sink, with the number of its steps. -/
inductive Runs (set : InstructionSet) :
    Machine →
    Sink →
    Nat →
    Outcome State →
    Prop where
  | stop
      {machine : Machine}
      {sink : Sink}
      (stops : (step set machine sink).result ≠ .ok .running) :
      Runs set machine sink 1 (step set machine sink)
  | next
      {machine : Machine}
      {sink : Sink}
      {count : Nat}
      {outcome : Outcome State}
      (goesOn : (step set machine sink).result = .ok .running)
      (rest :
        Runs set (step set machine sink).machine
          (step set machine sink).sink count outcome) :
      Runs set machine sink (count + 1)
        (outcome.after (step set machine sink).notices)

namespace Runs

variable {set : InstructionSet}

/-- The loop takes one course only. -/
theorem unique
    {machine : Machine}
    {sink : Sink}
    {firstCount secondCount : Nat}
    {first second : Outcome State}
    (firstRuns : Runs set machine sink firstCount first)
    (secondRuns : Runs set machine sink secondCount second) :
    firstCount = secondCount ∧ first = second := by
  induction firstRuns generalizing secondCount second with
  | stop stops =>
      cases secondRuns with
      | stop _ =>
          exact ⟨rfl, rfl⟩
      | next goesOn _ =>
          exact (stops goesOn).elim
  | next goesOn rest inductionHypothesis =>
      cases secondRuns with
      | stop stops =>
          exact (stops goesOn).elim
      | next _ otherRest =>
          obtain ⟨sameCount, sameOutcome⟩ :=
            inductionHypothesis otherRest
          exact ⟨by rw [sameCount], by rw [sameOutcome]⟩

/-- Whatever the loop ends with, it does not end with a machine that goes on. -/
theorem result_ne_running
    {machine : Machine}
    {sink : Sink}
    {count : Nat}
    {outcome : Outcome State}
    (runs : Runs set machine sink count outcome) :
    outcome.result ≠ .ok .running := by
  induction runs with
  | stop stops =>
      exact stops
  | next goesOn rest inductionHypothesis =>
      simpa using inductionHypothesis

end Runs

section Progress

variable {set : InstructionSet}

/--
A step after which the machine goes on was made inside memory and has moved the
program counter up, whatever the routine has made of the instruction byte.
-/
theorem counter_lt_of_goesOn
    (neverRetreats : set.NeverRetreats)
    {machine : Machine}
    {sink : Sink}
    (goesOn : (step set machine sink).result = .ok .running) :
    machine.counter < 256 ∧
      machine.counter < (step set machine sink).machine.counter := by
  have steps := steps_step set machine sink
  generalize step set machine sink = outcome at goesOn steps ⊢
  cases steps with
  | halted stopped =>
      cases goesOn
  | outside running beyond =>
      cases goesOn
  | unknown running fetched missing =>
      cases goesOn
  | faulted running fetched found refused =>
      cases goesOn
  | @executed opcode routine running fetched found succeeded =>
      have inside : machine.counter < 256 :=
        Memory.lt_of_read?_eq_some fetched
      have kept :=
        neverRetreats opcode routine found
          (machine.withInstruction opcode) sink
      refine ⟨inside, Nat.lt_of_le_of_lt kept ?_⟩
      exact Nat.lt_add_of_pos_right (Instruction.length_pos _)

theorem runFor_of_goesOn
    {budget : Nat}
    {machine : Machine}
    {sink : Sink}
    (goesOn : (step set machine sink).result = .ok .running) :
    runFor (budget + 1) set machine sink =
      (runFor budget set (step set machine sink).machine
        (step set machine sink).sink).after
        (step set machine sink).notices := by
  simp only [runFor, goesOn]

theorem runFor_of_stops
    {budget : Nat}
    {machine : Machine}
    {sink : Sink}
    (stops : (step set machine sink).result ≠ .ok .running) :
    runFor (budget + 1) set machine sink = step set machine sink := by
  -- The overlapping match takes its last arm because of `stops`.
  simp only [runFor]

/-- A budget that covers the rest of memory and one step more is enough. -/
theorem exists_runs_runFor
    (neverRetreats : set.NeverRetreats)
    {budget : Nat}
    {machine : Machine}
    {sink : Sink}
    (positive : 0 < budget)
    (covers : 257 - machine.counter ≤ budget) :
    ∃ count,
      count ≤ budget ∧
        Runs set machine sink count (runFor budget set machine sink) := by
  induction budget generalizing machine sink with
  | zero =>
      exact (Nat.lt_irrefl 0 positive).elim
  | succ budget inductionHypothesis =>
      by_cases goesOn : (step set machine sink).result = .ok .running
      · obtain ⟨inside, moved⟩ := counter_lt_of_goesOn neverRetreats goesOn
        obtain ⟨count, bounded, rest⟩ :=
          @inductionHypothesis
            (step set machine sink).machine (step set machine sink).sink
            (by omega) (by omega)
        refine ⟨count + 1, Nat.succ_le_succ bounded, ?_⟩
        rw [runFor_of_goesOn goesOn]
        exact .next goesOn rest
      · refine ⟨1, Nat.le_add_left 1 budget, ?_⟩
        rw [runFor_of_stops goesOn]
        exact .stop goesOn

/-- The loop ends within the budget of a run, and as the run does. -/
theorem exists_runs_run
    (neverRetreats : set.NeverRetreats)
    (machine : Machine)
    (sink : Sink) :
    ∃ count,
      count ≤ machine.budget ∧
        Runs set machine sink count (run set machine sink) :=
  exists_runs_runFor neverRetreats
    (Nat.lt_of_lt_of_le Nat.one_pos (Nat.le_max_left ..))
    (Nat.le_max_right ..)

/-- A run has the outcome of the loop, and the loop has no other. -/
theorem exists_runs_iff
    (neverRetreats : set.NeverRetreats)
    {machine : Machine}
    {sink : Sink}
    {outcome : Outcome State} :
    (∃ count, Runs set machine sink count outcome) ↔
      outcome = run set machine sink := by
  obtain ⟨count, _, runs⟩ := exists_runs_run neverRetreats machine sink
  constructor
  · rintro ⟨otherCount, otherRuns⟩
    exact (otherRuns.unique runs).2
  · rintro rfl
    exact ⟨count, runs⟩

end Progress

end Machine

end EightBit
