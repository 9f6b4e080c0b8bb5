import EightBit.Machine.Run

namespace EightBit.Machine

/-!
# Operations and histories

What the owner of a machine may do with it, besides looking at its state: put
programs and bytes into memory, look at memory and registers, combine registers,
call a built-in routine directly, and have the machine step or run. A history is
a sequence of operations, each with the sink that it is given. An operation that
faults does not end a history.
-/

/-- Something that the owner of a machine does with it. -/
inductive Operation where
  | load (program : List UInt8)
  | write (address : Nat) (value : UInt8)
  | read (address : Nat)
  | readRegister (number : UInt8)
  | setTracing (tracing : Bool)
  /-- Ask for the trace line of the machine as it stands. -/
  | describe
  | combine (arithmetic : Arithmetic) (first second : UInt8)
  /-- Call a built-in routine, after which the program counter does not move. -/
  | call (builtIn : BuiltIn)
  | step
  | run
  deriving Repr, DecidableEq

/-- What an operation returns if it does not fault. -/
inductive Answer where
  | done
  | byte (value : UInt8)
  | line (text : String)
  | reached (state : State)
  deriving Repr, DecidableEq

namespace Operation

/-- What an operation leads to. -/
def perform
    (operation : Operation)
    (set : InstructionSet)
    (machine : Machine)
    (sink : Sink) :
    Outcome Answer :=
  match operation with
  | .load program =>
      (Routine.ofChange (fun machine => machine.load program) machine sink).map
        fun _ => .done
  | .write address value =>
      (Routine.ofChange (fun machine => machine.write address value)
        machine sink).map fun _ => .done
  | .read address =>
      ⟨(machine.read address).map .byte, machine, sink, []⟩
  | .readRegister number =>
      ⟨(machine.readRegister number).map .byte, machine, sink, []⟩
  | .setTracing tracing =>
      ⟨.ok .done, machine.setTracing tracing, sink, []⟩
  | .describe =>
      ⟨.ok (.line machine.snapshot.line), machine, sink, []⟩
  | .combine arithmetic first second =>
      (Routine.ofChange
        (fun machine => machine.combine arithmetic first second)
        machine sink).map fun _ => .done
  | .call builtIn =>
      (builtIn.routine machine sink).map fun _ => .done
  | .step =>
      (machine.step set sink).map .reached
  | .run =>
      (machine.run set sink).map .reached

end Operation

/-- Operations in the order in which they are done, each with its sink. -/
abbrev History :=
  List (Operation × Sink)

/-- The machine behind a history, whether or not operations have faulted. -/
def afterHistory
    (set : InstructionSet)
    (machine : Machine)
    (history : History) :
    Machine :=
  history.foldl
    (fun current entry =>
      (entry.1.perform set current entry.2).machine) machine

/-- The operations of a history, each with the outcome that it had. -/
def record
    (set : InstructionSet) :
    Machine →
    History →
    List (Operation × Outcome Answer)
  | _, [] => []
  | machine, (operation, sink) :: later =>
      (operation, operation.perform set machine sink) ::
        record set (operation.perform set machine sink).machine later

end EightBit.Machine
