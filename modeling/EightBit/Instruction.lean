namespace EightBit.Instruction

/-!
# Instruction bytes

An instruction byte reads `AABCDDDD`: `AA` is the number of operands that
follow it, `B` marks arithmetic, `C` marks instructions that set the program
counter, and `DDDD` tells instructions of one kind apart.
-/

/-- Number of operand bytes that follow the instruction byte. -/
def operandCount (instruction : UInt8) : Nat :=
  (instruction >>> 6).toNat

/-- Number of bytes of the whole instruction, its operands included. -/
def length (instruction : UInt8) : Nat :=
  1 + operandCount instruction

/-- Whether the instruction is carried out by the arithmetic unit. -/
def isArithmetic (instruction : UInt8) : Bool :=
  instruction &&& 0b00100000 != 0

/-- The low four bits, which tell instructions of one kind apart. -/
def identifier (instruction : UInt8) : UInt8 :=
  instruction &&& 0b00001111

/-- `HLT`: stop the machine. -/
def halt : UInt8 :=
  0b00000001

/-- `LDI register value`: put a value into a register. -/
def loadImmediate : UInt8 :=
  0b10000010

/-- `PRN register`: write the number in a register as a line of output. -/
def printRegister : UInt8 :=
  0b01000111

/-- `MUL first second`: multiply two registers. -/
def multiply : UInt8 :=
  0b10100010

theorem operandCount_lt (instruction : UInt8) :
    operandCount instruction < 4 := by
  have bound := instruction.toNat_lt
  simp only [operandCount, UInt8.toNat_shiftRight, Nat.shiftRight_eq_div_pow]
  simp
  omega

theorem length_pos (instruction : UInt8) :
    0 < length instruction :=
  Nat.add_pos_left Nat.one_pos _

end EightBit.Instruction
