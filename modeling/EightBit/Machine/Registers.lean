namespace EightBit

/-!
# Registers

Eight registers of one byte, numbered from zero. By convention the last one
points at the top of a stack, and it is the only one that does not start at
zero.
-/

/-- The register file. -/
structure Registers where
  values : Vector UInt8 8
  deriving Repr, DecidableEq

namespace Registers

/-- The registers of a machine that has executed nothing. -/
def initial : Registers where
  values := #v[0, 0, 0, 0, 0, 0, 0, 0xF4]

/-- The value of a register, if there is one of that number. -/
def read?
    (registers : Registers)
    (number : UInt8) :
    Option UInt8 :=
  registers.values[number.toNat]?

/-- The registers with one value replaced, if there is one of that number. -/
def write?
    (registers : Registers)
    (number value : UInt8) :
    Option Registers :=
  if inRange : number.toNat < 8 then
    some ⟨registers.values.set number.toNat value inRange⟩
  else
    none

/-- The values of all registers, by ascending number. -/
def toList (registers : Registers) : List UInt8 :=
  registers.values.toList

/-- There is a register of every number below eight and of no other. -/
theorem read?_eq_none_iff
    {registers : Registers}
    {number : UInt8} :
    registers.read? number = none ↔ 8 ≤ number.toNat := by
  simp [read?]

theorem write?_eq_none_iff
    {registers : Registers}
    {number value : UInt8} :
    registers.write? number value = none ↔ 8 ≤ number.toNat := by
  simp [write?]

end Registers

end EightBit
