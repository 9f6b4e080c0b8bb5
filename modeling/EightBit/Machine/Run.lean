import EightBit.Machine.InstructionSet

namespace EightBit.Machine

/-!
# Stepping and running

A step executes one instruction; a run goes on until the machine halts or an
instruction faults. A routine that leaves the program counter where it was, or
moves it on, can succeed only while the counter is inside memory, so a run that
starts at `counter` needs at most `257 - counter` steps, and one to find a
machine halted or outside memory. `run` allows just that many.
-/

/-- The notices a machine gives before it executes an instruction. -/
def traceNotices (machine : Machine) : List Notice :=
  if machine.tracing then
    [.trace machine.snapshot]
  else
    []

/-- Halt a machine at an instruction that no routine implements. -/
def haltUnknown (machine : Machine) : Machine :=
  { machine with
    state := .halted (.unknownOpcode machine.instruction machine.counter) }

/--
Carry out the instruction that was fetched last: its routine runs and the
program counter moves on, or the machine halts for want of a routine.
-/
def execute
    (set : InstructionSet)
    (machine : Machine)
    (sink : Sink) :
    Outcome State :=
  match set.routine? machine.instruction with
  | none =>
      ⟨.ok machine.haltUnknown.state, machine.haltUnknown, sink,
        [.unknownInstruction machine.instruction machine.counter]⟩
  | some routine =>
      let outcome := routine machine sink
      match outcome.result with
      | .error fault =>
          ⟨.error fault, outcome.machine, outcome.sink, outcome.notices⟩
      | .ok () =>
          ⟨.ok outcome.machine.state, outcome.machine.advance, outcome.sink,
            outcome.notices⟩

/--
Execute one instruction. A halted machine is left as it is and says nothing; a
running one is reported first if it is tracing, even if its fetch then faults.
-/
def step
    (set : InstructionSet)
    (machine : Machine)
    (sink : Sink) :
    Outcome State :=
  match machine.state with
  | .halted _ =>
      ⟨.ok machine.state, machine, sink, []⟩
  | .running =>
      match machine.read machine.counter with
      | .error fault =>
          ⟨.error fault, machine, sink, machine.traceNotices⟩
      | .ok opcode =>
          (execute set (machine.withInstruction opcode) sink).after
            machine.traceNotices

/--
Execute instructions until the machine halts or one faults, but no more than a
number of steps. The result is the state reached.
-/
def runFor :
    Nat →
    InstructionSet →
    Machine →
    Sink →
    Outcome State
  | 0, _, machine, sink =>
      ⟨.ok machine.state, machine, sink, []⟩
  | budget + 1, set, machine, sink =>
      let outcome := step set machine sink
      match outcome.result with
      | .ok .running =>
          (runFor budget set outcome.machine outcome.sink).after outcome.notices
      | _ => outcome

/-- The number of steps within which a run ends. -/
def budget (machine : Machine) : Nat :=
  max 1 (257 - machine.counter)

/-- Execute instructions until the machine halts or one faults. -/
def run
    (set : InstructionSet)
    (machine : Machine)
    (sink : Sink) :
    Outcome State :=
  runFor machine.budget set machine sink

/-- A step of a halted machine does nothing at all. -/
theorem step_of_halted
    {machine : Machine}
    {halt : Halt}
    (halted : machine.state = .halted halt)
    (set : InstructionSet)
    (sink : Sink) :
    step set machine sink = ⟨.ok (.halted halt), machine, sink, []⟩ := by
  simp [step, halted]

/-- A step outside memory faults with the address of the program counter. -/
theorem step_of_counter_le
    {machine : Machine}
    (running : machine.state = .running)
    (outside : 256 ≤ machine.counter)
    (set : InstructionSet)
    (sink : Sink) :
    step set machine sink =
      ⟨.error (.addressOutOfRange machine.counter), machine, sink,
        machine.traceNotices⟩ := by
  have fetch :
      machine.read machine.counter =
        .error (.addressOutOfRange machine.counter) :=
    read_eq_error_iff.mpr ⟨outside, rfl⟩
  simp [step, running, fetch]

end EightBit.Machine
