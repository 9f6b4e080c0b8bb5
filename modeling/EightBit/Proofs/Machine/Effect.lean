import EightBit.Machine.Evaluation
import EightBit.Proofs.Text.Encoding
import Mathlib.Data.Nat.Bitwise

namespace EightBit

/-!
# The evaluator, one instruction at a time

The evaluator takes instruction bytes and register values as numbers. What it
computes of one instruction is what the built-in routine does to the registers
and the output of a machine, and the evaluation of a program is the effect of
its first instruction in front of the evaluation of the rest.
-/

namespace Instruction

theorem toNat_identifier (instruction : UInt8) :
    (identifier instruction).toNat = instruction.toNat % 16 := by
  rw [identifier, UInt8.toNat_and]
  exact Nat.and_two_pow_sub_one_eq_mod _ 4

/-- An instruction byte is marked as arithmetic by the bit of value thirty-two. -/
theorem isArithmetic_iff (instruction : UInt8) :
    isArithmetic instruction ↔ instruction.toNat / 32 % 2 = 1 := by
  have bit :
      (instruction &&& 0b00100000).toNat =
        instruction.toNat / 32 % 2 * 32 := by
    rw [UInt8.toNat_and]
    have masked := Nat.and_two_pow instruction.toNat 5
    rw [Nat.toNat_testBit] at masked
    exact masked
  simp only [isArithmetic, bne_iff_ne, ne_eq, ← UInt8.toNat_inj, bit]
  simp only [UInt8.toNat_zero]
  omega

end Instruction

/-- The state in which a built-in routine leaves a machine where it succeeds. -/
def BuiltIn.stateAfter : BuiltIn → State → State
  | .halt, _ => .halted .instruction
  | _, state => state

theorem BuiltIn.stateAfter_of_ne_halt
    {builtIn : BuiltIn}
    (goesOn : builtIn ≠ .halt)
    (state : State) :
    builtIn.stateAfter state = state := by
  cases builtIn with
  | halt =>
      exact (goesOn rfl).elim
  | loadImmediate | printRegister | calculate =>
      rfl

namespace Evaluation

/-- What the arithmetic unit refuses, the evaluator refuses alike. -/
theorem operation_eq_error
    {instruction : UInt8}
    {fault : Fault}
    (refused : Arithmetic.decode instruction = .error fault) :
    operation instruction = .error fault := by
  have same := Arithmetic.eq_unsupported_of_decode_eq_error refused
  subst same
  have notAdd : Arithmetic.decode instruction ≠ .ok .add := by
    simp [refused]
  have notMultiply : Arithmetic.decode instruction ≠ .ok .multiply := by
    simp [refused]
  simp only [ne_eq, Arithmetic.decode_eq_ok_iff, Instruction.isArithmetic_iff,
    ← UInt8.toNat_inj, Instruction.toNat_identifier] at notAdd notMultiply
  unfold operation
  split
  · exact (notAdd ⟨‹_›, ‹_›⟩).elim
  · exact (notMultiply ⟨‹_›, ‹_›⟩).elim
  · rfl

/-- An operation of the arithmetic unit is the evaluator's, taken on bytes. -/
theorem operation_eq_ok
    {instruction : UInt8}
    {arithmetic : Arithmetic}
    (decoded : Arithmetic.decode instruction = .ok arithmetic) :
    ∃ combine,
      operation instruction = .ok combine ∧
        ∀ first second : UInt8,
          UInt8.ofNat (combine first.toNat second.toNat) =
            arithmetic.apply first second := by
  obtain ⟨marked, key⟩ := Arithmetic.decode_eq_ok_iff.mp decoded
  rw [Instruction.isArithmetic_iff] at marked
  rw [← UInt8.toNat_inj, Instruction.toNat_identifier] at key
  cases arithmetic with
  | add =>
      refine ⟨fun first second => (first + second) % 256, ?_, ?_⟩
      · simp [operation, marked, key, Arithmetic.identifier]
      · intro first second
        simp only [← Arithmetic.toNat_apply_add, UInt8.ofNat_toNat]
  | multiply =>
      refine ⟨fun first second => first * second % 256, ?_, ?_⟩
      · simp [operation, marked, key, Arithmetic.identifier]
      · intro first second
        simp only [← Arithmetic.toNat_apply_multiply, UInt8.ofNat_toNat]

/-- The line that is printed is the value in decimal and a line feed. -/
theorem outputLine_eq_decimalLine (value : UInt8) :
    outputLine value = decimalLine value := by
  have ascii :
      ∀ character ∈ Numeral.write 10 value.toNat ++ ['\n'],
        character.toNat < 128 :=
    fun _ => Numeral.toNat_lt_of_mem_line
  rw [outputLine, decimalLine, Text.asciiBytes_eq_characterBytes ascii,
    Text.encode_eq_characterBytes, ← Numeral.ofList_write_ten]
  simp

/--
What a routine leads to that has an effect on registers and output, where the
sink may refuse the output. A fault leaves the machine as it was.
-/
def attempted
    (builtIn : BuiltIn)
    (machine : Machine)
    (sink : Sink) :
    Except Fault (Registers × List UInt8) →
    Outcome Unit
  | .error fault => ⟨.error fault, machine, sink, []⟩
  | .ok (registers, output) =>
      match sink.verdict output with
      | .error failure =>
          ⟨.error (.outputFailed failure), machine, (sink.write output).2, []⟩
      | .ok () =>
          ⟨.ok (),
            { machine with
              registers := registers
              state := builtIn.stateAfter machine.state },
            (sink.write output).2, []⟩

/-- What a routine leads to of which the sink accepts all output. -/
def performed
    (machine : Machine)
    (sink : Sink) :
    Except Fault (Registers × List UInt8) →
    Outcome Unit
  | .error fault => ⟨.error fault, machine, sink, []⟩
  | .ok (registers, output) =>
      ⟨.ok (), { machine with registers := registers },
        { sink with accepted := sink.accepted ++ output }, []⟩

theorem operand_eq_byteAt
    (machine : Machine)
    (number : Nat) :
    machine.operand number =
      byteAt machine.memory (machine.counter + number) :=
  rfl

theorem readRegister_eq_valueOf
    (machine : Machine)
    (number : UInt8) :
    machine.readRegister number = valueOf machine.registers number :=
  rfl

/-- A change that writes one register has the effect of replacing its value. -/
theorem writeRegister_eq_replace
    (machine : Machine)
    (number value : UInt8) :
    machine.writeRegister number value =
      match replace machine.registers number value with
      | .error fault => .error fault
      | .ok registers => .ok { machine with registers := registers } := by
  unfold Machine.writeRegister replace
  cases machine.registers.write? number value <;> rfl

/-- A built-in routine attempts the effect that is evaluated. -/
theorem routine_eq_attempted
    (builtIn : BuiltIn)
    (machine : Machine)
    (sink : Sink) :
    builtIn.routine machine sink =
      attempted builtIn machine sink
        (effect machine.memory machine.counter machine.instruction
          machine.registers builtIn) := by
  cases builtIn with
  | halt =>
      simp [BuiltIn.routine, Routine.ofChange, effect, attempted, Machine.halt,
        BuiltIn.stateAfter]
  | loadImmediate =>
      simp only [BuiltIn.routine, Routine.ofChange, Machine.loadImmediate,
        effect, operand_eq_byteAt, writeRegister_eq_replace]
      cases byteAt machine.memory (machine.counter + 1) with
      | error fault =>
          rfl
      | ok register =>
          cases byteAt machine.memory (machine.counter + 2) with
          | error fault =>
              rfl
          | ok value =>
              simp only [bind, Except.bind]
              cases replace machine.registers register value <;>
                simp [attempted, BuiltIn.stateAfter]
  | printRegister =>
      simp only [BuiltIn.routine, Routine.printRegister, Machine.printedValue,
        effect, operand_eq_byteAt, readRegister_eq_valueOf]
      cases byteAt machine.memory (machine.counter + 1) with
      | error fault =>
          rfl
      | ok register =>
          simp only [bind, Except.bind]
          cases valueOf machine.registers register with
          | error fault =>
              rfl
          | ok value =>
              simp only [Sink.write, outputLine_eq_decimalLine, attempted]
              cases sink.verdict (decimalLine value) <;> rfl
  | calculate =>
      simp only [BuiltIn.routine, Routine.ofChange, Machine.calculate,
        Machine.combine, effect, operand_eq_byteAt, readRegister_eq_valueOf,
        writeRegister_eq_replace]
      cases decoded : Arithmetic.decode machine.instruction with
      | error fault =>
          rw [operation_eq_error decoded]
          rfl
      | ok arithmetic =>
          obtain ⟨combine, same, onBytes⟩ := operation_eq_ok decoded
          simp only [same, bind, Except.bind]
          cases byteAt machine.memory (machine.counter + 1) with
          | error fault =>
              rfl
          | ok first =>
              cases byteAt machine.memory (machine.counter + 2) with
              | error fault =>
                  rfl
              | ok second =>
                  dsimp only
                  cases valueOf machine.registers first with
                  | error fault =>
                      rfl
                  | ok firstValue =>
                      dsimp only
                      cases valueOf machine.registers second with
                      | error fault =>
                          rfl
                      | ok secondValue =>
                          simp only [onBytes]
                          cases replace machine.registers first
                              (arithmetic.apply firstValue secondValue) <;>
                            simp [attempted, BuiltIn.stateAfter]

section Equations

variable
  {assignment : UInt8 → Option BuiltIn}
  {memory : Memory}
  {address : Nat}
  {previous instruction : UInt8}
  {registers : Registers}

end Equations

end Evaluation

end EightBit
