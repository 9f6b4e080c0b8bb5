import EightBit.Machine.Routine

namespace EightBit

/-!
# Procedures

A procedure is a routine that is written down access by access. It may read and
write memory, code included, read registers, combine registers and write to the
sink; what it does next depends on what it has been answered, and it may go on
after an access that has faulted. It cannot set the program counter or the
state, and it ends after finitely many accesses.
-/

/-- What a routine does, access by access. -/
inductive Procedure where
  /-- Return to the machine. -/
  | finish (result : Except Fault Unit)
  /-- Learn the program counter and the instruction byte fetched last. -/
  | locate (next : Nat → UInt8 → Procedure)
  | read
      (address : Nat)
      (next : Except Fault UInt8 → Procedure)
  | write
      (address : Nat)
      (value : UInt8)
      (next : Except Fault Unit → Procedure)
  | readRegister
      (number : UInt8)
      (next : Except Fault UInt8 → Procedure)
  | combine
      (operation : Arithmetic)
      (first second : UInt8)
      (next : Except Fault Unit → Procedure)
  /-- Write bytes of program output. -/
  | emit
      (bytes : List UInt8)
      (next : Except WriteFailure Unit → Procedure)

namespace Procedure

/-- The routine that makes the accesses of a procedure. -/
def routine : Procedure → Routine
  | .finish result, machine, sink =>
      ⟨result, machine, sink, []⟩
  | .locate next, machine, sink =>
      (next machine.counter machine.instruction).routine machine sink
  | .read address next, machine, sink =>
      (next (machine.read address)).routine machine sink
  | .write address value next, machine, sink =>
      match machine.write address value with
      | .ok changed => (next (.ok ())).routine changed sink
      | .error fault => (next (.error fault)).routine machine sink
  | .readRegister number next, machine, sink =>
      (next (machine.readRegister number)).routine machine sink
  | .combine operation first second next, machine, sink =>
      match machine.combine operation first second with
      | .ok changed => (next (.ok ())).routine changed sink
      | .error fault => (next (.error fault)).routine machine sink
  | .emit bytes next, machine, sink =>
      (next (sink.write bytes).1).routine machine (sink.write bytes).2

end Procedure

end EightBit
