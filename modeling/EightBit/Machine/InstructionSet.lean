import EightBit.Machine.Routine

namespace EightBit

/-!
# Instruction sets

An instruction set says which routine implements an opcode. Sets are built from
the empty or the standard one by installing routines; the routine installed last
for an opcode is the one that counts.
-/

/-- Which routine, if any, implements each opcode. -/
structure InstructionSet where
  routine? : UInt8 → Option Routine

namespace InstructionSet

/-- The set that implements no opcode. -/
def empty : InstructionSet where
  routine? := fun _ => none

/-- The set with a routine installed for an opcode, in place of any before it. -/
def install
    (set : InstructionSet)
    (opcode : UInt8)
    (routine : Routine) :
    InstructionSet where
  routine? := fun other =>
    if other = opcode then
      some routine
    else
      set.routine? other

/-- The set that implements `HLT`, `LDI`, `MUL` and `PRN`. -/
def standard : InstructionSet :=
  (((empty.install Instruction.halt BuiltIn.halt.routine).install
    Instruction.loadImmediate BuiltIn.loadImmediate.routine).install
    Instruction.multiply BuiltIn.calculate.routine).install
    Instruction.printRegister BuiltIn.printRegister.routine

/-- The opcodes that a set implements, in ascending order. -/
def implemented (set : InstructionSet) : List UInt8 :=
  ((List.range 256).map UInt8.ofNat).filter fun opcode =>
    (set.routine? opcode).isSome

/-- Every routine of the set is one of the built-in ones. -/
def UsesBuiltIns (set : InstructionSet) : Prop :=
  ∀ opcode routine,
    set.routine? opcode = some routine →
    ∃ builtIn : BuiltIn, routine = builtIn.routine

@[simp] theorem routine?_empty (opcode : UInt8) :
    empty.routine? opcode = none :=
  rfl

/-- An installed routine is found, and no other opcode is affected. -/
theorem routine?_install
    (set : InstructionSet)
    (opcode : UInt8)
    (routine : Routine)
    (other : UInt8) :
    (set.install opcode routine).routine? other =
      if other = opcode then some routine else set.routine? other :=
  rfl

/-- The standard set implements its four opcodes and no other. -/
theorem routine?_standard (opcode : UInt8) :
    standard.routine? opcode =
      if opcode = Instruction.printRegister then
        some BuiltIn.printRegister.routine
      else if opcode = Instruction.multiply then
        some BuiltIn.calculate.routine
      else if opcode = Instruction.loadImmediate then
        some BuiltIn.loadImmediate.routine
      else if opcode = Instruction.halt then
        some BuiltIn.halt.routine
      else
        none :=
  rfl

theorem usesBuiltIns_empty : UsesBuiltIns empty := by
  intro opcode routine found
  simp at found

/-- Installing a built-in routine keeps a set one of built-in routines. -/
theorem UsesBuiltIns.install
    {set : InstructionSet}
    (usesBuiltIns : set.UsesBuiltIns)
    (opcode : UInt8)
    (builtIn : BuiltIn) :
    (set.install opcode builtIn.routine).UsesBuiltIns := by
  intro other routine found
  rw [routine?_install] at found
  split at found
  · exact ⟨builtIn, (Option.some.inj found).symm⟩
  · exact usesBuiltIns other routine found

theorem usesBuiltIns_standard : UsesBuiltIns standard :=
  (((usesBuiltIns_empty.install _ _).install _ _).install _ _).install _ _

end InstructionSet

end EightBit
