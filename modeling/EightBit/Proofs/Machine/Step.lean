import EightBit.Proofs.Machine.Frame

namespace EightBit.Machine

/-!
# The ways a step can go

A step finds the machine halted, or outside memory, or at an opcode without
routine; or it runs a routine, which faults or succeeds. `Steps` has one rule
for each of the five, with everything that the rule needs and all it leaves
behind. A step follows exactly one of them.
-/

/-- The rules by which a machine makes a step. -/
inductive Steps
    (set : InstructionSet)
    (machine : Machine)
    (sink : Sink) :
    Outcome State →
    Prop where
  | halted
      {halt : Halt}
      (stopped : machine.state = .halted halt) :
      Steps set machine sink ⟨.ok (.halted halt), machine, sink, []⟩
  | outside
      (running : machine.state = .running)
      (beyond : 256 ≤ machine.counter) :
      Steps set machine sink
        ⟨.error (.addressOutOfRange machine.counter), machine, sink,
          machine.traceNotices⟩
  | unknown
      {opcode : UInt8}
      (running : machine.state = .running)
      (fetched : machine.memory.read? machine.counter = some opcode)
      (missing : set.routine? opcode = none) :
      Steps set machine sink
        ⟨.ok (.halted (.unknownOpcode opcode machine.counter)),
          haltUnknown (machine.withInstruction opcode), sink,
          machine.traceNotices ++
            [.unknownInstruction opcode machine.counter]⟩
  | faulted
      {opcode : UInt8}
      {routine : Routine}
      {fault : Fault}
      (running : machine.state = .running)
      (fetched : machine.memory.read? machine.counter = some opcode)
      (found : set.routine? opcode = some routine)
      (refused :
        (routine (machine.withInstruction opcode) sink).result =
          .error fault) :
      Steps set machine sink
        ⟨.error fault,
          (routine (machine.withInstruction opcode) sink).machine,
          (routine (machine.withInstruction opcode) sink).sink,
          machine.traceNotices ++
            (routine (machine.withInstruction opcode) sink).notices⟩
  | executed
      {opcode : UInt8}
      {routine : Routine}
      (running : machine.state = .running)
      (fetched : machine.memory.read? machine.counter = some opcode)
      (found : set.routine? opcode = some routine)
      (succeeded :
        (routine (machine.withInstruction opcode) sink).result =
          .ok ()) :
      Steps set machine sink
        ⟨.ok
            (routine (machine.withInstruction opcode) sink).machine.state,
          (routine (machine.withInstruction opcode) sink).machine.advance,
          (routine (machine.withInstruction opcode) sink).sink,
          machine.traceNotices ++
            (routine (machine.withInstruction opcode) sink).notices⟩

theorem steps_step
    (set : InstructionSet)
    (machine : Machine)
    (sink : Sink) :
    Steps set machine sink (step set machine sink) := by
  cases state : machine.state with
  | halted halt =>
      rw [step_of_halted state]
      exact .halted state
  | running =>
      cases fetched : machine.memory.read? machine.counter with
      | none =>
          have beyond : 256 ≤ machine.counter :=
            Memory.read?_eq_none_iff.mp fetched
          rw [step_of_counter_le state beyond]
          exact .outside state beyond
      | some opcode =>
          have reads : machine.read machine.counter = .ok opcode :=
            read_eq_ok_iff.mpr fetched
          simp only [step, state, reads, execute,
            Machine.withInstruction_instruction]
          cases found : set.routine? opcode with
          | none =>
              exact .unknown state fetched found
          | some routine =>
              cases result :
                  (routine (machine.withInstruction opcode) sink).result with
              | error fault =>
                  simp only [result]
                  exact .faulted state fetched found result
              | ok _ =>
                  simp only [result]
                  exact .executed state fetched found result

/-- The rules leave a step no choice. -/
theorem Steps.eq_step
    {set : InstructionSet}
    {machine : Machine}
    {sink : Sink}
    {outcome : Outcome State}
    (steps : Steps set machine sink outcome) :
    outcome = step set machine sink := by
  cases steps with
  | halted stopped =>
      rw [step_of_halted stopped]
  | outside running beyond =>
      rw [step_of_counter_le running beyond]
  | unknown running fetched missing =>
      have reads := read_eq_ok_iff.mpr fetched
      simp [step, running, reads, execute, missing, haltUnknown, Outcome.after]
  | faulted running fetched found refused =>
      have reads := read_eq_ok_iff.mpr fetched
      simp [step, running, reads, execute, found, refused, Outcome.after]
  | executed running fetched found succeeded =>
      have reads := read_eq_ok_iff.mpr fetched
      simp [step, running, reads, execute, found, succeeded, Outcome.after]

end EightBit.Machine
