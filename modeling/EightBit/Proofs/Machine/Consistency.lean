import EightBit.Proofs.Machine.History
import EightBit.Proofs.Machine.Locality

namespace EightBit

/-!
# What holds of a machine whatever is done to it

The program counter may leave memory, but not by far. An instruction has its
effect only if its operands are inside memory, and takes at most four bytes; so
how far behind memory it can lead depends on how many operands its routine reads.
A machine that has halted for want of a routine still stands at the opcode that it
has fetched. All this is kept by every operation, whether or not it faults.
-/

/-- No opcode of the set encodes more operands than its built-in routine reads. -/
def InstructionSet.ReadsOperands (set : InstructionSet) : Prop :=
  ∀ opcode (builtIn : BuiltIn),
    set.routine? opcode = some builtIn.routine →
    Instruction.operandCount opcode ≤ builtIn.operandCount

theorem InstructionSet.readsOperands_standard : ReadsOperands standard := by
  intro opcode builtIn found
  rw [eq_opcode_of_standard found, BuiltIn.operandCount_opcode]

namespace Machine

/-- Where a machine may stand, and what its state says about it. -/
structure Consistent
    (set : InstructionSet)
    (machine : Machine) :
    Prop where
  counter : machine.counter ≤ 259
  counterOfRunning : machine.state = .running → machine.counter ≤ 258
  unknown :
    ∀ opcode address,
      machine.state = .halted (.unknownOpcode opcode address) →
      opcode = machine.instruction ∧
        address = machine.counter ∧
        address ≤ 255 ∧
        set.routine? opcode = none
  flags : machine.flags = 0

theorem consistent_initial (set : InstructionSet) :
    Consistent set initial where
  counter := Nat.zero_le 259
  counterOfRunning := fun _ => Nat.zero_le 258
  unknown := by
    intro opcode address halted
    cases halted
  flags := rfl

/-- Only the course of a machine matters. -/
theorem Consistent.of_sameCourse
    {set : InstructionSet}
    {machine other : Machine}
    (consistent : Consistent set machine)
    (same : SameCourse machine other) :
    Consistent set other where
  counter := by
    rw [same.counter]
    exact consistent.counter
  counterOfRunning := by
    rw [same.state, same.counter]
    exact consistent.counterOfRunning
  unknown := by
    rw [same.state, same.instruction, same.counter]
    exact consistent.unknown
  flags := same.flags.trans consistent.flags

/-- A machine may be stopped wherever it stands. -/
theorem Consistent.halt
    {set : InstructionSet}
    {machine : Machine}
    (consistent : Consistent set machine) :
    Consistent set machine.halt where
  counter := consistent.counter
  counterOfRunning := by
    intro running
    cases running
  unknown := by
    intro opcode address halted
    cases halted
  flags := consistent.flags

section BuiltIns

variable
  {set : InstructionSet}
  (usesBuiltIns : set.UsesBuiltIns)

include usesBuiltIns

theorem Consistent.step
    {machine : Machine}
    (sink : Sink)
    (consistent : Consistent set machine) :
    Consistent set (step set machine sink).machine := by
  have steps := builtInSteps_step usesBuiltIns machine sink
  generalize Machine.step set machine sink = outcome at steps ⊢
  cases steps with
  | halted | outside =>
      exact consistent
  | unknown running fetched missing =>
      have inside := Memory.lt_of_read?_eq_some fetched
      refine ⟨consistent.counter, ?_, ?_, consistent.flags⟩
      · intro goesOn
        cases goesOn
      · rintro opcode address ⟨⟩
        exact ⟨rfl, rfl, Nat.le_of_lt_succ inside, missing⟩
  | refused running | cutOff running =>
      refine
        ⟨consistent.counter, consistent.counterOfRunning, ?_, consistent.flags⟩
      intro opcode address halted
      cases running.symm.trans halted
  | @performed opcode builtIn registers output
      running fetched found performs accepts =>
      have inside := Memory.lt_of_read?_eq_some fetched
      have operandsInside := Evaluation.operands_inside inside performs
      have short := Instruction.operandCount_lt opcode
      have near :
          machine.counter + (1 + Instruction.operandCount opcode) ≤ 259 := by
        omega
      refine ⟨near, ?_, ?_, consistent.flags⟩
      · -- Only the routine that halts has its effect at the last address.
        intro goesOn
        have reads : 1 ≤ builtIn.operandCount := by
          cases builtIn with
          | halt =>
              cases goesOn
          | loadImmediate | printRegister | calculate =>
              decide
        have nearer :
            machine.counter + (1 + Instruction.operandCount opcode) ≤ 258 := by
          omega
        exact nearer
      · intro unknownOpcode address halted
        cases builtIn with
        | halt =>
            cases halted
        | loadImmediate | printRegister | calculate =>
            cases running.symm.trans halted

/-- An instruction that encodes no more than its operands ends by address 256. -/
theorem counter_step_le
    (readsOperands : set.ReadsOperands)
    {machine : Machine}
    (sink : Sink)
    (near : machine.counter ≤ 256) :
    (step set machine sink).machine.counter ≤ 256 := by
  have steps := builtInSteps_step usesBuiltIns machine sink
  generalize Machine.step set machine sink = outcome at steps ⊢
  cases steps with
  | halted | outside | unknown | refused | cutOff =>
      exact near
  | @performed opcode builtIn registers output
      running fetched found performs accepts =>
      have inside := Memory.lt_of_read?_eq_some fetched
      have operandsInside := Evaluation.operands_inside inside performs
      have encoded := readsOperands opcode builtIn found
      have stillNear :
          machine.counter + (1 + Instruction.operandCount opcode) ≤ 256 := by
        omega
      exact stillNear

end BuiltIns

/--
The sums that are made of the program counter: the addresses of the operands, the
addresses that a trace line shows, and the address of the next instruction, all of
them below a bound.
-/
structure CountsBelow
    (bound : Nat)
    (machine : Machine) :
    Prop where
  operand : ∀ number ≤ 2, machine.counter + number < bound
  shown : ∀ offset : Fin 3, machine.counter + offset.val < bound
  next :
    ∀ opcode, (machine.withInstruction opcode).advance.counter < bound

/-- The sums stay far below what the narrowest word for an address can hold. -/
theorem Consistent.countsBelow
    {set : InstructionSet}
    {machine : Machine}
    (consistent : Consistent set machine) :
    CountsBelow (2 ^ 16) machine := by
  have near := consistent.counter
  refine ⟨?_, ?_, ?_⟩
  · intro number atMost
    omega
  · intro offset
    omega
  · intro opcode
    have short := Instruction.operandCount_lt opcode
    have below :
        machine.counter + (1 + Instruction.operandCount opcode) < 2 ^ 16 := by
      omega
    exact below

/--
Let anything be done to a fresh machine with built-in routines, in any order, with
any arguments and sinks, and whether or not it faults. The program counter is at
most 259, at most 258 as long as the machine goes on, and with the standard set at
most 256. A machine that has halted at an opcode without routine stands at this
opcode inside memory, and has fetched it last. The flags are zero. So no sum that
is made of the program counter, now or in a run from now on, can overflow a word
of sixteen bits or more.
-/
theorem machine_consistent_after_history
    {set : InstructionSet}
    (usesBuiltIns : set.UsesBuiltIns)
    (history : History) :
    Consistent set (afterHistory set initial history) ∧
      (set = .standard → (afterHistory set initial history).counter ≤ 256) ∧
      CountsBelow (2 ^ 16) (afterHistory set initial history) ∧
      ∀ sink,
      ∀ attempt ∈ trail set (afterHistory set initial history) sink,
        CountsBelow (2 ^ 16) attempt.1 := by
  have neverRetreats := usesBuiltIns.neverRetreats
  have consistent : Consistent set (afterHistory set initial history) := by
    refine
      afterHistory_preserves_course neverRetreats ?_ ?_ ?_
        (consistent_initial set) history
    · intro machine other same before
      exact before.of_sameCourse same
    · intro machine before
      exact before.halt
    · intro machine sink before
      exact before.step usesBuiltIns sink
  refine ⟨consistent, ?_, consistent.countsBelow, ?_⟩
  · rintro rfl
    have readsOperands := InstructionSet.readsOperands_standard
    refine
      afterHistory_preserves_course neverRetreats ?_ ?_ ?_
        (Nat.zero_le 256) history
    · intro machine other same near
      exact same.counter.trans_le near
    · intro machine near
      exact near
    · intro machine sink near
      exact counter_step_le usesBuiltIns readsOperands sink near
  · intro sink attempt member
    have consistentThere :=
      trail_preserves neverRetreats
        (fun _ sink before => before.step usesBuiltIns sink) consistent
        attempt member
    exact Consistent.countsBelow consistentThere

/-- A missing register is printed, the printing is replaced, and code is loaded. -/
def repaired : History :=
  [(.load [130, 0, 7, 71, 9], Sink.unlimited),
    (.run, Sink.unlimited),
    (.write 3 0, Sink.unlimited),
    (.run, Sink.unlimited),
    (.load [1, 1, 1, 1], Sink.unlimited),
    (.step, Sink.unlimited)]

/-- A machine that found no routine at address 3 still says so with new code there. -/
theorem machine_consistent_after_history_repaired :
    InstructionSet.standard.UsesBuiltIns ∧
      (afterHistory .standard initial repaired).state =
        .halted (.unknownOpcode 0 3) ∧
      (afterHistory .standard initial repaired).read 3 = .ok 1 ∧
      (afterHistory .standard initial repaired).instruction = 0 ∧
      (afterHistory .standard initial repaired).counter = 3 ∧
      InstructionSet.standard.routine? 0 = none := by
  have halted :
      (afterHistory .standard initial repaired).state =
        .halted (.unknownOpcode 0 3) := by
    decide +kernel
  obtain ⟨consistent, -⟩ :=
    machine_consistent_after_history InstructionSet.usesBuiltIns_standard
      repaired
  obtain ⟨isInstruction, isCounter, -, missing⟩ :=
    consistent.unknown 0 3 halted
  exact
    ⟨InstructionSet.usesBuiltIns_standard, halted, by decide +kernel,
      isInstruction.symm, isCounter.symm, missing⟩

end Machine

end EightBit
