import EightBit.Machine.Memory
import EightBit.Machine.Registers
import EightBit.Text.Numeral

namespace EightBit

/-!
# Trace lines

A snapshot is what a trace line shows of a machine: where it stands, the three
bytes there, and its registers. `Snapshot.line` writes it as
`TRACE: PC | b b b | R0 ... R7`, in hexadecimal.
-/

/-- The part of a machine that a trace line shows. -/
structure Snapshot where
  address : Nat
  window : Vector UInt8 3
  registers : Registers
  deriving Repr, DecidableEq

namespace Snapshot

/-- A number in hexadecimal with at least two digits. -/
def hexadecimal (value : Nat) : List Char :=
  Numeral.writePadded 16 2 value

/-- Bytes in hexadecimal, each behind a blank. -/
def spaced (bytes : List UInt8) : List Char :=
  bytes.flatMap fun byte => ' ' :: hexadecimal byte.toNat

/-- The characters of a trace line. -/
def characters (snapshot : Snapshot) : List Char :=
  "TRACE: ".toList ++ hexadecimal snapshot.address ++
    " |".toList ++ spaced snapshot.window.toList ++
    " |".toList ++ spaced snapshot.registers.toList

/-- A trace line, without an end of line. -/
def line (snapshot : Snapshot) : String :=
  String.ofList snapshot.characters

end Snapshot

end EightBit
