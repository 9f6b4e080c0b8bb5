import EightBit.Fault
import EightBit.Instruction

namespace EightBit

/-!
# Arithmetic

The operations of the arithmetic unit. Each is keyed by the low four bits of an
instruction byte that is marked as arithmetic, and computes modulo 256.
-/

/-- An operation on two register values. -/
inductive Arithmetic where
  | add
  | multiply
  deriving Repr, DecidableEq

namespace Arithmetic

/-- The low four bits of the instruction bytes that select an operation. -/
def identifier : Arithmetic → UInt8
  | .add => 0b0000
  | .multiply => 0b0010

/-- Combine two register values; results wrap at eight bits. -/
def apply : Arithmetic → UInt8 → UInt8 → UInt8
  | .add, first, second => first + second
  | .multiply, first, second => first * second

/-- The operation that an instruction byte selects. -/
def decode (instruction : UInt8) : Except Fault Arithmetic :=
  if Instruction.isArithmetic instruction then
    if Instruction.identifier instruction = add.identifier then
      .ok .add
    else if Instruction.identifier instruction = multiply.identifier then
      .ok .multiply
    else
      .error (.unsupportedOperation instruction)
  else
    .error (.unsupportedOperation instruction)

/-- The sum of two register values is their sum modulo 256. -/
theorem toNat_apply_add (first second : UInt8) :
    (add.apply first second).toNat =
      (first.toNat + second.toNat) % 256 := by
  simp [apply, UInt8.toNat_add]

/-- The product of two register values is their product modulo 256. -/
theorem toNat_apply_multiply (first second : UInt8) :
    (multiply.apply first second).toNat =
      first.toNat * second.toNat % 256 := by
  simp [apply, UInt8.toNat_mul]

theorem decode_eq_ok_iff
    {instruction : UInt8}
    {operation : Arithmetic} :
    decode instruction = .ok operation ↔
      Instruction.isArithmetic instruction ∧
        Instruction.identifier instruction = operation.identifier := by
  unfold decode
  cases operation <;> split <;> (try split) <;> (try split) <;>
    simp_all [identifier]

/-- A byte that selects no operation is refused with itself in the fault. -/
theorem eq_unsupported_of_decode_eq_error
    {instruction : UInt8}
    {fault : Fault}
    (refused : decode instruction = .error fault) :
    fault = .unsupportedOperation instruction := by
  unfold decode at refused
  split at refused <;> (try split at refused) <;>
    (try split at refused) <;> simp_all

end Arithmetic

end EightBit
