import EightBit.Machine.Outcome
import EightBit.Text.Encoding

namespace EightBit

/-!
# Routines

A routine implements one opcode. It finds its operands behind the program
counter, which moves on only after the routine has returned. Four routines are
built in; anything else of the same type may be installed beside them.
-/

/-- What carries out an instruction. -/
abbrev Routine :=
  Machine → Sink → Outcome Unit

/-- A change of the machine alone; where it faults, nothing has changed. -/
def Routine.ofChange (change : Machine → Except Fault Machine) : Routine :=
  fun machine sink =>
    match change machine with
    | .ok changed => ⟨.ok (), changed, sink, []⟩
    | .error fault => ⟨.error fault, machine, sink, []⟩

namespace Machine

/-- Stop the machine. -/
def halt (machine : Machine) : Machine :=
  { machine with state := .halted .instruction }

/-- Put the second operand into the register named by the first. -/
def loadImmediate (machine : Machine) : Except Fault Machine :=
  match machine.operand 1 with
  | .error fault => .error fault
  | .ok register =>
      match machine.operand 2 with
      | .error fault => .error fault
      | .ok value => machine.writeRegister register value

/-- The value of the register named by the first operand. -/
def printedValue (machine : Machine) : Except Fault UInt8 :=
  match machine.operand 1 with
  | .error fault => .error fault
  | .ok register => machine.readRegister register

/--
Combine the registers named by the two operands with the operation that the
instruction byte selects.
-/
def calculate (machine : Machine) : Except Fault Machine :=
  match Arithmetic.decode machine.instruction with
  | .error fault => .error fault
  | .ok operation =>
      match machine.operand 1 with
      | .error fault => .error fault
      | .ok first =>
          match machine.operand 2 with
          | .error fault => .error fault
          | .ok second => machine.combine operation first second

end Machine

/-- A number as a line of program output. -/
def outputLine (value : UInt8) : List UInt8 :=
  Text.asciiBytes (Numeral.write 10 value.toNat ++ ['\n'])

/-- Write the register named by the first operand as a line of output. -/
def Routine.printRegister : Routine :=
  fun machine sink =>
    match machine.printedValue with
    | .error fault => ⟨.error fault, machine, sink, []⟩
    | .ok value =>
        match sink.write (outputLine value) with
        | (.ok (), written) => ⟨.ok (), machine, written, []⟩
        | (.error failure, written) =>
            ⟨.error (.outputFailed failure), machine, written, []⟩

/-- The routines that come with the machine. -/
inductive BuiltIn where
  | halt
  | loadImmediate
  | printRegister
  | calculate
  deriving Repr, DecidableEq

/-- What a built-in routine does. -/
def BuiltIn.routine : BuiltIn → Routine
  | .halt => Routine.ofChange fun machine => .ok machine.halt
  | .loadImmediate => Routine.ofChange Machine.loadImmediate
  | .printRegister => Routine.printRegister
  | .calculate => Routine.ofChange Machine.calculate

end EightBit
