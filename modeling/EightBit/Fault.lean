import EightBit.Report
import EightBit.Sink
import EightBit.Text.Numeral

namespace EightBit

/-!
# Faults

Conditions that abort execution. An instruction byte that no routine implements
is none of them: it halts the machine in the ordinary way.
-/

/-- Why execution was aborted. -/
inductive Fault where
  | unsupportedOperation (instruction : UInt8)
  | addressOutOfRange (address : Nat)
  | imageTooLarge (length : Nat)
  | registerOutOfRange (register : UInt8)
  | outputFailed (failure : WriteFailure)
  deriving Repr, DecidableEq

namespace Fault

/-- The wording of a fault. -/
def message : Fault → String
  | .unsupportedOperation instruction =>
      "Unsupported ALU operation in instruction 0b" ++
        String.ofList (Numeral.writePadded 2 8 instruction.toNat)
  | .addressOutOfRange address =>
      "Memory address 0x" ++ String.ofList (Numeral.write 16 address) ++
        " is out of range"
  | .imageTooLarge length =>
      "Program image of " ++ String.ofList (Numeral.write 10 length) ++
        " bytes does not fit in memory"
  | .registerOutOfRange register =>
      "Register R" ++ String.ofList (Numeral.write 10 register.toNat) ++
        " does not exist"
  | .outputFailed _ =>
      "Could not write program output"

/-- The code that names the kind of a fault. -/
def code : Fault → String
  | .unsupportedOperation _ => "runtime::alu"
  | .addressOutOfRange _ => "runtime::address"
  | .imageTooLarge _ => "runtime::image"
  | .registerOutOfRange _ => "runtime::register"
  | .outputFailed _ => "runtime::output"

/-- Advice on a fault, where there is any to give. -/
def help : Fault → Option String
  | .unsupportedOperation _ =>
      some "only ADD (0b0000) and MUL (0b0010) are implemented by the ALU"
  | .addressOutOfRange _ =>
      some ("the LS-8 has 256 bytes of memory; " ++
        "check operands near the end of the program")
  | .imageTooLarge _ =>
      some "the LS-8 has 256 bytes of memory; shorten the program"
  | .registerOutOfRange _ =>
      some "registers are numbered R0 to R7"
  | .outputFailed _ =>
      none

/-- A fault as it is shown to its reader. -/
def report (fault : Fault) : Report where
  code := some fault.code
  message := fault.message
  help := fault.help
  severity := none
  labels := []

end Fault

end EightBit
