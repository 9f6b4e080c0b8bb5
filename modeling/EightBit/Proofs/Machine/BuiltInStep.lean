import EightBit.Proofs.Machine.Effect
import EightBit.Proofs.Machine.Step

namespace EightBit

/-!
# The ways a step with built-in routines can go

Where all routines are built-in, a routine that runs has the effect that is
evaluated of it, or it faults: its effect cannot be had, or the sink refuses the
line that it prints. `BuiltInSteps` refines the rules of a step accordingly. In
every fault the machine is as it was but for the instruction byte.
-/

/-- The number of operands that a built-in routine reads. -/
def BuiltIn.operandCount : BuiltIn → Nat
  | .halt => 0
  | .loadImmediate => 2
  | .printRegister => 1
  | .calculate => 2

namespace Evaluation

section Conditions

variable {α β : Type}

/-- What holds of the fault or the result of a computation. -/
def Meets
    (computed : Except Fault α)
    (onFault : Fault → Prop)
    (onResult : α → Prop) :
    Prop :=
  match computed with
  | .error fault => onFault fault
  | .ok result => onResult result

theorem Meets.bind
    {computed : Except Fault α}
    {next : α → Except Fault β}
    {onFault : Fault → Prop}
    {between : α → Prop}
    {onResult : β → Prop}
    (first : Meets computed onFault between)
    (later : ∀ result, between result → Meets (next result) onFault onResult) :
    Meets (computed >>= next) onFault onResult := by
  cases computed with
  | error fault =>
      exact first
  | ok result =>
      exact later result first

end Conditions

/-- A fault that is not about program output. -/
def NotOfOutput (fault : Fault) : Prop :=
  ∀ failure, fault ≠ .outputFailed failure

/--
Why an instruction that stands inside memory has no effect: its opcode selects no
operation, its operands reach behind the last cell, or one of them names no
register.
-/
inductive Refusal
    (memory : Memory)
    (address : Nat)
    (instruction : UInt8) :
    BuiltIn →
    Fault →
    Prop where
  | unsupported
      (refused :
        operation instruction = .error (.unsupportedOperation instruction)) :
      Refusal memory address instruction .calculate
        (.unsupportedOperation instruction)
  | endOfMemory
      {builtIn : BuiltIn} :
      Refusal memory address instruction builtIn (.addressOutOfRange 256)
  | missingRegister
      {builtIn : BuiltIn}
      {number : Nat}
      {register : UInt8}
      (first : 1 ≤ number)
      (last : number ≤ builtIn.operandCount)
      (present : memory.read? (address + number) = some register)
      (missing : 8 ≤ register.toNat) :
      Refusal memory address instruction builtIn (.registerOutOfRange register)

section Refusals

variable
  {memory : Memory}
  {address : Nat}
  {instruction : UInt8}
  {registers : Registers}
  {builtIn : BuiltIn}

/-- The first operand that is behind the last cell is right behind it. -/
theorem Refusal.ofOperand
    {number : Nat}
    (before : address + number < 256)
    (beyond : 256 ≤ address + (number + 1)) :
    Refusal memory address instruction builtIn
      (.addressOutOfRange (address + (number + 1))) := by
  have rightBehind : address + (number + 1) = 256 := by
    omega
  rw [rightBehind]
  exact .endOfMemory

theorem Refusal.notOfOutput
    {fault : Fault}
    (refusal : Refusal memory address instruction builtIn fault) :
    NotOfOutput fault := by
  cases refusal <;> rintro failure ⟨⟩

section Accesses

variable {onFault : Fault → Prop}

theorem meets_byteAt
    (missing : 256 ≤ address → onFault (.addressOutOfRange address)) :
    Meets (byteAt memory address) onFault
      fun value => memory.read? address = some value := by
  unfold byteAt
  split
  · assumption
  · exact missing (Memory.read?_eq_none_iff.mp ‹_›)

theorem meets_valueOf
    {number : UInt8}
    (missing : 8 ≤ number.toNat → onFault (.registerOutOfRange number)) :
    Meets (valueOf registers number) onFault
      fun value => registers.read? number = some value := by
  unfold valueOf
  split
  · assumption
  · exact missing (Registers.read?_eq_none_iff.mp ‹_›)

theorem meets_replace
    {number value : UInt8}
    (missing : 8 ≤ number.toNat → onFault (.registerOutOfRange number)) :
    Meets (replace registers number value) onFault fun _ => True := by
  unfold replace
  split
  · trivial
  · exact missing (Registers.write?_eq_none_iff.mp ‹_›)

theorem meets_operation
    (unsupported :
      operation instruction = .error (.unsupportedOperation instruction) →
      onFault (.unsupportedOperation instruction)) :
    Meets (operation instruction) onFault fun _ => True := by
  cases computed : operation instruction with
  | ok combine =>
      trivial
  | error fault =>
      have itself : fault = .unsupportedOperation instruction := by
        unfold operation at computed
        split at computed
        · cases computed
        · cases computed
        · exact (Except.error.inj computed).symm
      subst itself
      exact unsupported computed

end Accesses

/--
An instruction inside memory has an effect only if its operands are inside memory,
too. An effect is never refused for want of room in a sink, and only the printing
routine writes output: the line of the register that its operand names.
-/
theorem meets_effect
    (memory : Memory)
    (inside : address < 256)
    (instruction : UInt8)
    (registers : Registers)
    (builtIn : BuiltIn) :
    Meets (effect memory address instruction registers builtIn)
      (Refusal memory address instruction builtIn)
      fun (changed, output) =>
        address + builtIn.operandCount < 256 ∧
          (output = [] ∨
            builtIn = .printRegister ∧
              changed = registers ∧
              ∃ register value,
                memory.read? (address + 1) = some register ∧
                  registers.read? register = some value ∧
                  output = decimalLine value) := by
  have outsideFirst :
      ∀ {builtIn},
        256 ≤ address + 1 →
        Refusal memory address instruction builtIn
          (.addressOutOfRange (address + 1)) :=
    .ofOperand (show address + 0 < 256 from inside)
  cases builtIn with
  | halt =>
      exact ⟨inside, .inl rfl⟩
  | loadImmediate =>
      refine (meets_byteAt outsideFirst).bind fun register first => ?_
      have reached := Memory.lt_of_read?_eq_some first
      refine (meets_byteAt (.ofOperand reached)).bind fun value second => ?_
      refine
        (meets_replace (.missingRegister (le_refl 1) (by decide) first)).bind
          fun replaced _ => ?_
      exact ⟨Memory.lt_of_read?_eq_some second, .inl rfl⟩
  | printRegister =>
      refine (meets_byteAt outsideFirst).bind fun register first => ?_
      refine
        (meets_valueOf (.missingRegister (le_refl 1) (le_refl 1) first)).bind
          fun value named => ?_
      exact
        ⟨Memory.lt_of_read?_eq_some first,
          .inr ⟨rfl, rfl, register, value, first, named, rfl⟩⟩
  | calculate =>
      refine (meets_operation .unsupported).bind fun combine _ => ?_
      refine (meets_byteAt outsideFirst).bind fun first firstRead => ?_
      have reached := Memory.lt_of_read?_eq_some firstRead
      refine (meets_byteAt (.ofOperand reached)).bind fun second secondRead => ?_
      have noFirst :
          8 ≤ first.toNat →
          Refusal memory address instruction .calculate
            (.registerOutOfRange first) :=
        .missingRegister (le_refl 1) (by decide) firstRead
      have noSecond :
          8 ≤ second.toNat →
          Refusal memory address instruction .calculate
            (.registerOutOfRange second) :=
        .missingRegister (by decide) (le_refl 2) secondRead
      refine (meets_valueOf noFirst).bind fun firstValue _ => ?_
      refine (meets_valueOf noSecond).bind fun secondValue _ => ?_
      refine (meets_replace noFirst).bind fun replaced _ => ?_
      exact ⟨Memory.lt_of_read?_eq_some secondRead, .inl rfl⟩

/-- What has an effect has its operands inside memory. -/
theorem operands_inside
    {effects : Registers × List UInt8}
    (inside : address < 256)
    (performs :
      effect memory address instruction registers builtIn = .ok effects) :
    address + builtIn.operandCount < 256 := by
  have meets := meets_effect memory inside instruction registers builtIn
  rw [performs] at meets
  exact meets.1

theorem refusal_of_refuses
    {fault : Fault}
    (inside : address < 256)
    (refuses :
      effect memory address instruction registers builtIn = .error fault) :
    Refusal memory address instruction builtIn fault := by
  have meets := meets_effect memory inside instruction registers builtIn
  rwa [refuses] at meets

end Refusals

end Evaluation

namespace Machine

/-- The machine behind an instruction with an effect on its registers. -/
def afterEffect
    (machine : Machine)
    (opcode : UInt8)
    (builtIn : BuiltIn)
    (registers : Registers) :
    Machine :=
  advance
    { machine.withInstruction opcode with
      registers := registers
      state := builtIn.stateAfter machine.state }

/-- The rules by which a machine with built-in routines makes a step. -/
inductive BuiltInSteps
    (set : InstructionSet)
    (machine : Machine)
    (sink : Sink) :
    Outcome State →
    Prop where
  | halted
      {halt : Halt}
      (stopped : machine.state = .halted halt) :
      BuiltInSteps set machine sink ⟨.ok (.halted halt), machine, sink, []⟩
  | outside
      (running : machine.state = .running)
      (beyond : 256 ≤ machine.counter) :
      BuiltInSteps set machine sink
        ⟨.error (.addressOutOfRange machine.counter), machine, sink,
          machine.traceNotices⟩
  | unknown
      {opcode : UInt8}
      (running : machine.state = .running)
      (fetched : machine.memory.read? machine.counter = some opcode)
      (missing : set.routine? opcode = none) :
      BuiltInSteps set machine sink
        ⟨.ok (.halted (.unknownOpcode opcode machine.counter)),
          haltUnknown (machine.withInstruction opcode), sink,
          machine.traceNotices ++
            [.unknownInstruction opcode machine.counter]⟩
  | refused
      {opcode : UInt8}
      {builtIn : BuiltIn}
      {fault : Fault}
      (running : machine.state = .running)
      (fetched : machine.memory.read? machine.counter = some opcode)
      (found : set.routine? opcode = some builtIn.routine)
      (refuses :
        Evaluation.effect machine.memory machine.counter opcode
            machine.registers builtIn =
          .error fault) :
      BuiltInSteps set machine sink
        ⟨.error fault, machine.withInstruction opcode, sink,
          machine.traceNotices⟩
  | cutOff
      {opcode : UInt8}
      {builtIn : BuiltIn}
      {registers : Registers}
      {output : List UInt8}
      {failure : WriteFailure}
      (running : machine.state = .running)
      (fetched : machine.memory.read? machine.counter = some opcode)
      (found : set.routine? opcode = some builtIn.routine)
      (performs :
        Evaluation.effect machine.memory machine.counter opcode
            machine.registers builtIn =
          .ok (registers, output))
      (full : sink.verdict output = .error failure) :
      BuiltInSteps set machine sink
        ⟨.error (.outputFailed failure), machine.withInstruction opcode,
          (sink.write output).2, machine.traceNotices⟩
  | performed
      {opcode : UInt8}
      {builtIn : BuiltIn}
      {registers : Registers}
      {output : List UInt8}
      (running : machine.state = .running)
      (fetched : machine.memory.read? machine.counter = some opcode)
      (found : set.routine? opcode = some builtIn.routine)
      (performs :
        Evaluation.effect machine.memory machine.counter opcode
            machine.registers builtIn =
          .ok (registers, output))
      (accepts : sink.verdict output = .ok ()) :
      BuiltInSteps set machine sink
        ⟨.ok (builtIn.stateAfter machine.state),
          machine.afterEffect opcode builtIn registers,
          (sink.write output).2, machine.traceNotices⟩

/-- A step of a machine with built-in routines follows one of the rules. -/
theorem builtInSteps_step
    {set : InstructionSet}
    (usesBuiltIns : set.UsesBuiltIns)
    (machine : Machine)
    (sink : Sink) :
    BuiltInSteps set machine sink (step set machine sink) := by
  have steps := steps_step set machine sink
  generalize step set machine sink = outcome at steps ⊢
  cases steps with
  | halted stopped =>
      exact .halted stopped
  | outside running beyond =>
      exact .outside running beyond
  | unknown running fetched missing =>
      exact .unknown running fetched missing
  | @faulted opcode routine fault running fetched found refused =>
      obtain ⟨builtIn, rfl⟩ := usesBuiltIns opcode routine found
      rw [Evaluation.routine_eq_attempted] at refused ⊢
      simp only [withInstruction_memory, withInstruction_counter,
        withInstruction_instruction, withInstruction_registers] at refused ⊢
      cases performs :
          Evaluation.effect machine.memory machine.counter opcode
            machine.registers builtIn with
      | error reason =>
          simp only [performs, Evaluation.attempted, Except.error.injEq,
            List.append_nil] at refused ⊢
          subst reason
          exact .refused running fetched found performs
      | ok effects =>
          cases verdict : sink.verdict effects.2 with
          | error failure =>
              simp only [performs, Evaluation.attempted, verdict,
                Except.error.injEq, List.append_nil] at refused ⊢
              subst fault
              exact .cutOff running fetched found performs verdict
          | ok _ =>
              simp [performs, Evaluation.attempted, verdict] at refused
  | @executed opcode routine running fetched found succeeded =>
      obtain ⟨builtIn, rfl⟩ := usesBuiltIns opcode routine found
      rw [Evaluation.routine_eq_attempted] at succeeded ⊢
      simp only [withInstruction_memory, withInstruction_counter,
        withInstruction_instruction, withInstruction_registers]
        at succeeded ⊢
      cases performs :
          Evaluation.effect machine.memory machine.counter opcode
            machine.registers builtIn with
      | error reason =>
          simp [performs, Evaluation.attempted] at succeeded
      | ok effects =>
          cases verdict : sink.verdict effects.2 with
          | error failure =>
              simp [performs, Evaluation.attempted, verdict] at succeeded
          | ok _ =>
              simp only [Evaluation.attempted, verdict, List.append_nil,
                withInstruction_state]
              exact .performed running fetched found performs verdict

/-- The rules leave a step with built-in routines no choice. -/
theorem BuiltInSteps.eq_step
    {set : InstructionSet}
    {machine : Machine}
    {sink : Sink}
    {outcome : Outcome State}
    (steps : BuiltInSteps set machine sink outcome) :
    outcome = step set machine sink := by
  cases steps with
  | halted stopped =>
      exact (Steps.halted stopped).eq_step
  | outside running beyond =>
      exact (Steps.outside running beyond).eq_step
  | unknown running fetched missing =>
      exact (Steps.unknown running fetched missing).eq_step
  | refused running fetched found refuses =>
      have reads := read_eq_ok_iff.mpr fetched
      simp [step, running, reads, execute, found,
        Evaluation.routine_eq_attempted, refuses, Evaluation.attempted,
        Outcome.after]
  | cutOff running fetched found performs full =>
      have reads := read_eq_ok_iff.mpr fetched
      simp [step, running, reads, execute, found,
        Evaluation.routine_eq_attempted, performs, Evaluation.attempted, full,
        Outcome.after]
  | performed running fetched found performs accepts =>
      have reads := read_eq_ok_iff.mpr fetched
      simp [step, running, reads, execute, found,
        Evaluation.routine_eq_attempted, performs, Evaluation.attempted,
        accepts, Outcome.after, afterEffect]

section Kept

variable
  {set : InstructionSet}
  (usesBuiltIns : set.UsesBuiltIns)
  {machine : Machine}
  {sink : Sink}

include usesBuiltIns

/-- A step changes neither memory nor tracing, nor how much a sink accepts. -/
theorem step_keeps :
    (step set machine sink).machine.memory = machine.memory ∧
      (step set machine sink).machine.tracing = machine.tracing ∧
      (step set machine sink).sink.limit = sink.limit := by
  have steps := builtInSteps_step usesBuiltIns machine sink
  generalize step set machine sink = outcome at steps ⊢
  cases steps <;> exact ⟨rfl, rfl, rfl⟩

theorem memory_step :
    (step set machine sink).machine.memory = machine.memory :=
  (step_keeps usesBuiltIns).1

theorem tracing_step :
    (step set machine sink).machine.tracing = machine.tracing :=
  (step_keeps usesBuiltIns).2.1

theorem limit_step :
    (step set machine sink).sink.limit = sink.limit :=
  (step_keeps usesBuiltIns).2.2

end Kept

/--
A machine is about to print a value: the opcode in front of it is dispatched to
the printing routine, and its operand names a register of that value.
-/
structure Prints
    (set : InstructionSet)
    (machine : Machine)
    (opcode value : UInt8) :
    Prop where
  running : machine.state = .running
  fetched : machine.memory.read? machine.counter = some opcode
  dispatched : set.routine? opcode = some BuiltIn.printRegister.routine
  named :
    ∃ register,
      machine.memory.read? (machine.counter + 1) = some register ∧
        machine.registers.read? register = some value

namespace Prints

variable
  {set : InstructionSet}
  {machine : Machine}
  {opcode value : UInt8}

/-- What prints leaves the registers alone and writes the line of the value. -/
theorem effect_eq (prints : Prints set machine opcode value) :
    Evaluation.effect machine.memory machine.counter opcode machine.registers
        .printRegister =
      .ok (machine.registers, Evaluation.decimalLine value) := by
  obtain ⟨register, present, named⟩ := prints.named
  simp [Evaluation.effect, Evaluation.byteAt, Evaluation.valueOf, present,
    named, bind, Except.bind]

/-- With room for the line, the line is written and the machine moves on. -/
theorem step_of_accepts
    (prints : Prints set machine opcode value)
    {sink : Sink}
    (accepts : sink.verdict (Evaluation.decimalLine value) = .ok ()) :
    step set machine sink =
      ⟨.ok .running,
        machine.afterEffect opcode .printRegister machine.registers,
        (sink.write (Evaluation.decimalLine value)).2,
        machine.traceNotices⟩ := by
  have performed :=
    BuiltInSteps.performed prints.running prints.fetched prints.dispatched
      prints.effect_eq accepts
  rw [← performed.eq_step, prints.running]
  rfl

/-- Without room for the line, the part that fits is written and nothing else. -/
theorem step_of_full
    (prints : Prints set machine opcode value)
    {sink : Sink}
    {failure : WriteFailure}
    (full :
      sink.verdict (Evaluation.decimalLine value) = .error failure) :
    step set machine sink =
      ⟨.error (.outputFailed failure), machine.withInstruction opcode,
        (sink.write (Evaluation.decimalLine value)).2,
        machine.traceNotices⟩ :=
  (BuiltInSteps.cutOff prints.running prints.fetched prints.dispatched
    prints.effect_eq full).eq_step.symm

/-- A built-in routine that writes something prints a value. -/
theorem of_effect
    {builtIn : BuiltIn}
    {registers : Registers}
    {output : List UInt8}
    (running : machine.state = .running)
    (fetched : machine.memory.read? machine.counter = some opcode)
    (found : set.routine? opcode = some builtIn.routine)
    (performs :
      Evaluation.effect machine.memory machine.counter opcode
          machine.registers builtIn =
        .ok (registers, output))
    (writes : output ≠ []) :
    ∃ value,
      Prints set machine opcode value ∧
        output = Evaluation.decimalLine value := by
  have meets :=
    Evaluation.meets_effect machine.memory
      (Memory.lt_of_read?_eq_some fetched) opcode machine.registers builtIn
  rw [performs] at meets
  rcases meets with ⟨-, silent | prints⟩
  · exact (writes silent).elim
  · obtain ⟨rfl, _, register, value, present, named, line⟩ := prints
    exact ⟨value, ⟨running, fetched, found, register, present, named⟩, line⟩

end Prints

end Machine

end EightBit
