import EightBit.Machine.Basic

namespace EightBit

/-!
# Outcomes

Executing something yields a result or a fault, the machine and the sink as they
are afterwards, and the notices given on the way. A fault does not undo what was
done before it.
-/

/-- Something a machine tells its operator while it executes. -/
inductive Notice where
  /-- The machine is about to execute an instruction. -/
  | trace (snapshot : Snapshot)
  /-- No routine implements the instruction at an address. -/
  | unknownInstruction (opcode : UInt8) (address : Nat)
  deriving Repr, DecidableEq

/-- The wording of a notice, without an end of line. -/
def Notice.text : Notice → String
  | .trace snapshot =>
      snapshot.line
  | .unknownInstruction opcode address =>
      "Unknown instruction 0b" ++
        String.ofList (Numeral.writePadded 2 8 opcode.toNat) ++
        " at address 0x" ++
        String.ofList (Numeral.writePadded 16 2 address)

/-- What executing something leads to. -/
structure Outcome (α : Type) where
  result : Except Fault α
  machine : Machine
  sink : Sink
  notices : List Notice

namespace Outcome

variable {α β : Type}

/-- The same outcome with another result in place of the one there is, if any. -/
def map
    (change : α → β)
    (outcome : Outcome α) :
    Outcome β where
  result := outcome.result.map change
  machine := outcome.machine
  sink := outcome.sink
  notices := outcome.notices

/-- The same outcome after notices that were given before. -/
def after
    (outcome : Outcome α)
    (earlier : List Notice) :
    Outcome α :=
  { outcome with notices := earlier ++ outcome.notices }

@[simp] theorem after_result
    (outcome : Outcome α)
    (earlier : List Notice) :
    (outcome.after earlier).result = outcome.result :=
  rfl

@[simp] theorem after_machine
    (outcome : Outcome α)
    (earlier : List Notice) :
    (outcome.after earlier).machine = outcome.machine :=
  rfl

@[simp] theorem after_sink
    (outcome : Outcome α)
    (earlier : List Notice) :
    (outcome.after earlier).sink = outcome.sink :=
  rfl

@[simp] theorem after_notices
    (outcome : Outcome α)
    (earlier : List Notice) :
    (outcome.after earlier).notices = earlier ++ outcome.notices :=
  rfl

@[simp] theorem map_machine
    (change : α → β)
    (outcome : Outcome α) :
    (outcome.map change).machine = outcome.machine :=
  rfl

/-- Notices given before in two parts are given before in one. -/
theorem after_after
    (outcome : Outcome α)
    (first second : List Notice) :
    (outcome.after second).after first = outcome.after (first ++ second) := by
  simp [after, List.append_assoc]

end Outcome

end EightBit
