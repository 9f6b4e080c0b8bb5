import EightBit.Proofs.Machine.History

namespace EightBit.Machine

/-!
# A machine that has halted stays halted

Whatever routines a machine may have, once it has halted a step finds so before
it looks at anything else. Nothing that is loaded, written or set afterwards makes
it go on; only a direct call of the routine that halts gives it another reason for
having halted.
-/

section Halted

variable
  {machine : Machine}
  {halt : Halt}
  (halted : machine.state = .halted halt)

include halted

/-- A run of a halted machine does nothing at all. -/
theorem run_of_halted
    (set : InstructionSet)
    (sink : Sink) :
    run set machine sink = ⟨.ok (.halted halt), machine, sink, []⟩ := by
  have stepped := step_of_halted halted set sink
  have stops : (step set machine sink).result ≠ .ok .running := by
    simp [stepped]
  obtain ⟨budget, enough⟩ : ∃ budget, machine.budget = budget + 1 :=
    Nat.exists_eq_add_of_le' (Nat.le_max_left ..)
  rw [run, enough, runFor_of_stops stops, stepped]

/-- The loop finds a halted machine halted at its first step. -/
theorem runs_iff_of_halted
    (set : InstructionSet)
    (sink : Sink)
    (count : Nat)
    (outcome : Outcome State) :
    Runs set machine sink count outcome ↔
      count = 1 ∧ outcome = ⟨.ok (.halted halt), machine, sink, []⟩ := by
  have stepped := step_of_halted halted set sink
  have stops : (step set machine sink).result ≠ .ok .running := by
    simp [stepped]
  constructor
  · intro runs
    obtain ⟨once, outcomeShape⟩ := runs.unique (.stop stops)
    exact ⟨once, outcomeShape.trans stepped⟩
  · rintro ⟨rfl, rfl⟩
    rw [← stepped]
    exact .stop stops

/-- No operation makes a halted machine go on. -/
theorem state_perform_of_halted
    {operation : Operation}
    (other : operation ≠ .call .halt)
    (set : InstructionSet)
    (sink : Sink) :
    (operation.perform set machine sink).machine.state = .halted halt := by
  by_cases executes : operation.Executes
  · cases executes with
    | step =>
        simpa [Operation.perform, step_of_halted halted] using halted
    | run =>
        simpa [Operation.perform, run_of_halted halted] using halted
    | halt =>
        exact (other rfl).elim
  · exact (sameCourse_perform executes set machine sink).state.trans halted

end Halted

/-- No step and no run does anything to a machine, and no operation starts it. -/
structure Final
    (set : InstructionSet)
    (machine : Machine)
    (halt : Halt) :
    Prop where
  state : machine.state = .halted halt
  step :
    ∀ sink,
      step set machine sink = ⟨.ok (.halted halt), machine, sink, []⟩
  run :
    ∀ sink,
      run set machine sink = ⟨.ok (.halted halt), machine, sink, []⟩
  /-- The loop without a budget ends as well, at its first step. -/
  loop :
    ∀ sink count outcome,
      Runs set machine sink count outcome ↔
        count = 1 ∧ outcome = ⟨.ok (.halted halt), machine, sink, []⟩
  /-- Only calling the routine that halts can change why the machine halted. -/
  operations :
    ∀ (operation : Operation) sink,
      (operation.perform set machine sink).machine.state =
        if operation = .call .halt then
          .halted .instruction
        else
          .halted halt

theorem final_of_halted
    {machine : Machine}
    {halt : Halt}
    (halted : machine.state = .halted halt)
    (set : InstructionSet) :
    Final set machine halt where
  state := halted
  step := step_of_halted halted set
  run := run_of_halted halted set
  loop := runs_iff_of_halted halted set
  operations := by
    intro operation sink
    split
    · subst operation
      rfl
    · exact state_perform_of_halted halted ‹_› set sink

/--
Once a machine has halted, let anything be done to it, in any order and with any
sinks, but a direct call of the routine that halts. It stays halted for the same
reason; and every step and every run, whatever has been loaded, written or set
meanwhile, returns this reason, changes nothing of the machine, writes nothing
and tells nothing. Only a call of that routine changes the reason.
-/
theorem halted_machine_stays_halted
    (set : InstructionSet)
    {machine : Machine}
    {halt : Halt}
    (halted : machine.state = .halted halt)
    {history : History}
    (noHalt : ∀ entry ∈ history, entry.1 ≠ .call .halt) :
    Final set (afterHistory set machine history) halt := by
  have stillHalted :
      (afterHistory set machine history).state = .halted halt :=
    afterHistory_preserves
      (fun entry member _ before =>
        state_perform_of_halted before (noHalt entry member) set entry.2)
      halted
  exact final_of_halted stillHalted set

/-- A machine that has found no instruction at the start of zero memory. -/
def stuck : Machine :=
  haltUnknown initial

/-- Code that prints is put where a machine stands, and it is to be traced. -/
def revival : History :=
  [(.setTracing true, Sink.unlimited),
    (.load [130, 0, 9, 71, 0, 1], Sink.unlimited),
    (.call .loadImmediate, Sink.unlimited),
    (.step, Sink.unlimited),
    (.write 0 71, Sink.unlimited),
    (.run, Sink.unlimited)]

/-- Neither new code nor tracing revives a machine that has halted. -/
theorem halted_machine_stays_halted_revival :
    stuck.state = .halted (.unknownOpcode 0 0) ∧
      (∀ entry ∈ revival, entry.1 ≠ .call .halt) ∧
      (afterHistory .standard stuck revival).read 0 = .ok 71 ∧
      (afterHistory .standard stuck revival).readRegister 0 = .ok 9 ∧
      (afterHistory .standard stuck revival).tracing = true ∧
      (run .standard (afterHistory .standard stuck revival)
          Sink.unlimited).result =
        .ok (.halted (.unknownOpcode 0 0)) ∧
      (run .standard (afterHistory .standard stuck revival)
          Sink.unlimited).notices = [] ∧
      ((Operation.call .halt).perform .standard
          (afterHistory .standard stuck revival)
          Sink.unlimited).machine.state =
        .halted .instruction := by
  have halted : stuck.state = .halted (.unknownOpcode 0 0) := rfl
  have noHalt : ∀ entry ∈ revival, entry.1 ≠ .call .halt := by
    decide +kernel
  have final := halted_machine_stays_halted .standard halted noHalt
  refine ⟨halted, noHalt, by decide +kernel, by decide +kernel,
    by decide +kernel, ?_, ?_,
    final.operations (.call .halt) Sink.unlimited⟩
  · rw [final.run]
  · rw [final.run]

end EightBit.Machine
