import EightBit.Proofs.Machine.BuiltInStep
import EightBit.Proofs.Machine.Trail

namespace EightBit

/-!
# A run reads the instructions that it executes and nothing else

Where no routine reads more operands than its opcode has bits for, a step reads
the bytes of one instruction, and a run those from the program counter up to the
end of the instruction fetched last. All other memory may be exchanged without any
effect on the run: what has been executed already, and what is behind the
instruction that ends it.
-/

/-- Two memories read alike from one address on and up to another. -/
def Memory.AgreesBetween
    (memory other : Memory)
    (start stop : Nat) :
    Prop :=
  ∀ address,
    start ≤ address →
    address < stop →
    memory.read? address = other.read? address

/-- Memories that agree agree on less; behind the last cell they always do. -/
theorem Memory.AgreesBetween.narrow
    {memory other : Memory}
    {start stop innerStart innerStop : Nat}
    (agrees : memory.AgreesBetween other start stop)
    (later : start ≤ innerStart)
    (sooner : min 256 innerStop ≤ stop) :
    memory.AgreesBetween other innerStart innerStop := by
  intro address behind before
  by_cases inside : address < 256
  · exact agrees address (Nat.le_trans later behind) (by omega)
  · -- An instruction may reach past the last cell, where no memory has a byte.
    have beyond := Nat.le_of_not_lt inside
    rw [read?_eq_none_iff.mpr beyond, read?_eq_none_iff.mpr beyond]

/-- The built-in routines differ in what they do to a machine with zero memory. -/
theorem BuiltIn.routine_injective :
    Function.Injective BuiltIn.routine := by
  intro first second same
  have halts :=
    congrArg
      (fun routine => (routine .initial Sink.unlimited).machine.state) same
  have prints :=
    congrArg
      (fun routine => (routine .initial Sink.unlimited).sink.accepted) same
  have faults :=
    congrArg
      (fun routine => (routine .initial Sink.unlimited).result.isOk) same
  revert halts prints faults
  cases first <;> cases second <;> decide +kernel

/-- The opcode that a built-in routine has in the standard set. -/
def BuiltIn.opcode : BuiltIn → UInt8
  | .halt => Instruction.halt
  | .loadImmediate => Instruction.loadImmediate
  | .printRegister => Instruction.printRegister
  | .calculate => Instruction.multiply

/-- In the standard set an opcode encodes the operands that its routine reads. -/
theorem BuiltIn.operandCount_opcode (builtIn : BuiltIn) :
    Instruction.operandCount builtIn.opcode = builtIn.operandCount := by
  cases builtIn <;> decide

namespace InstructionSet

/-- No built-in routine of the set reads more operands than its opcode encodes. -/
def EncodesOperands (set : InstructionSet) : Prop :=
  ∀ opcode (builtIn : BuiltIn),
    set.routine? opcode = some builtIn.routine →
    builtIn.operandCount ≤ Instruction.operandCount opcode

/-- The standard set has a built-in routine at one opcode only. -/
theorem eq_opcode_of_standard
    {opcode : UInt8}
    {builtIn : BuiltIn}
    (found : standard.routine? opcode = some builtIn.routine) :
    opcode = builtIn.opcode := by
  rw [routine?_standard] at found
  split_ifs at found
  all_goals
    obtain rfl := BuiltIn.routine_injective (Option.some.inj found)
    assumption

theorem encodesOperands_standard : EncodesOperands standard := by
  intro opcode builtIn found
  rw [eq_opcode_of_standard found, BuiltIn.operandCount_opcode]

end InstructionSet

/-- Where the operands that a routine reads are the same, so is its effect. -/
theorem Evaluation.effect_congr
    {memory other : Memory}
    {address : Nat}
    {builtIn : BuiltIn}
    (agree :
      ∀ number ≤ builtIn.operandCount,
        other.read? (address + number) = memory.read? (address + number))
    (instruction : UInt8)
    (registers : Registers) :
    effect other address instruction registers builtIn =
      effect memory address instruction registers builtIn := by
  cases builtIn with
  | halt =>
      rfl
  | printRegister =>
      simp only [effect, byteAt, agree 1 (by decide)]
  | loadImmediate | calculate =>
      simp only [effect, byteAt, agree 1 (by decide), agree 2 (by decide)]

namespace Machine

/-- The machine with other memory. -/
def withMemory
    (machine : Machine)
    (memory : Memory) :
    Machine :=
  { machine with memory := memory }

/--
The second outcome is the first with other memory. What has been told may
differ: a trace line shows what is behind an instruction, too.
-/
structure EndsAlike
    (memory : Memory)
    (first second : Outcome State) :
    Prop where
  result : second.result = first.result
  machine : second.machine = first.machine.withMemory memory
  sink : second.sink = first.sink

/--
The address behind the instruction in front of a machine, which counts as long
as its opcode says, or as the opcode alone if no routine implements it.
-/
def instructionEnd
    (set : InstructionSet)
    (machine : Machine) :
    Nat :=
  match machine.memory.read? machine.counter with
  | none => machine.counter
  | some opcode =>
      match set.routine? opcode with
      | none => machine.counter + 1
      | some _ => machine.counter + Instruction.length opcode

/--
The address behind the last byte of the instruction with which a run has ended.
Of an opcode that no routine implements only that byte counts, and if an address
was out of range, all of memory does.
-/
def codeEnd (outcome : Outcome State) : Nat :=
  match outcome.result with
  | .ok (.halted (.unknownOpcode _ address)) => address + 1
  | .ok _ => outcome.machine.counter
  | .error (.addressOutOfRange _) => 256
  | .error _ =>
      outcome.machine.counter + Instruction.length outcome.machine.instruction

section InstructionEnd

variable
  {set : InstructionSet}
  {machine : Machine}
  {opcode : UInt8}
  (fetched : machine.memory.read? machine.counter = some opcode)

include fetched

theorem instructionEnd_of_missing
    (missing : set.routine? opcode = none) :
    instructionEnd set machine = machine.counter + 1 := by
  simp only [instructionEnd, fetched, missing]

theorem instructionEnd_of_found
    {routine : Routine}
    (found : set.routine? opcode = some routine) :
    instructionEnd set machine =
      machine.counter + Instruction.length opcode := by
  simp only [instructionEnd, fetched, found]

theorem counter_lt_instructionEnd :
    machine.counter < instructionEnd set machine := by
  cases found : set.routine? opcode with
  | none =>
      rw [instructionEnd_of_missing fetched found]
      exact Nat.lt_succ_self _
  | some routine =>
      rw [instructionEnd_of_found fetched found]
      exact Nat.lt_add_of_pos_right (Instruction.length_pos opcode)

end InstructionEnd

theorem counter_le_instructionEnd
    (set : InstructionSet)
    (machine : Machine) :
    machine.counter ≤ instructionEnd set machine := by
  cases fetched : machine.memory.read? machine.counter with
  | none =>
      simp only [instructionEnd, fetched, Nat.le_refl]
  | some opcode =>
      exact Nat.le_of_lt (counter_lt_instructionEnd fetched)

section Agreement

variable
  {set : InstructionSet}
  {machine : Machine}
  {memory : Memory}
  (agrees :
    memory.AgreesBetween machine.memory machine.counter
      (instructionEnd set machine))
  {opcode : UInt8}
  (fetched : machine.memory.read? machine.counter = some opcode)

include agrees fetched

/-- Memory that agrees on the instruction in front of a machine has its opcode. -/
theorem fetched_of_agrees :
    memory.read? machine.counter = some opcode :=
  (agrees _ (Nat.le_refl _) (counter_lt_instructionEnd fetched)).trans fetched

/-- Memory that agrees on an instruction has its operands, and so its effect. -/
theorem effect_of_agrees
    (encodesOperands : set.EncodesOperands)
    {builtIn : BuiltIn}
    (found : set.routine? opcode = some builtIn.routine) :
    Evaluation.effect memory machine.counter opcode machine.registers builtIn =
      Evaluation.effect machine.memory machine.counter opcode
        machine.registers builtIn := by
  refine Evaluation.effect_congr (fun number bounded => ?_) _ _
  have encoded := encodesOperands opcode builtIn found
  refine agrees _ (Nat.le_add_right _ _) ?_
  rw [instructionEnd_of_found fetched found, Instruction.length]
  omega

end Agreement

section Step

variable
  {set : InstructionSet}
  (usesBuiltIns : set.UsesBuiltIns)
  {machine : Machine}
  {sink : Sink}

include usesBuiltIns

/-- A step after which the machine goes on leads to the end of its instruction. -/
theorem counter_step_of_goesOn
    (goesOn : (step set machine sink).result = .ok .running) :
    (step set machine sink).machine.counter = instructionEnd set machine := by
  have steps := builtInSteps_step usesBuiltIns machine sink
  generalize step set machine sink = outcome at goesOn steps ⊢
  cases steps with
  | performed running fetched found performs accepts =>
      rw [instructionEnd_of_found fetched found]
      rfl
  | halted | outside | unknown | refused | cutOff =>
      cases goesOn

/-- Where the loop stops, it stops with the instruction in front of the machine. -/
theorem instructionEnd_le_of_stops
    (running : machine.state = .running)
    (stops : (step set machine sink).result ≠ .ok .running) :
    min 256 (instructionEnd set machine) ≤ codeEnd (step set machine sink) := by
  have steps := builtInSteps_step usesBuiltIns machine sink
  generalize step set machine sink = outcome at stops steps ⊢
  cases steps with
  | halted stopped =>
      rw [running] at stopped
      cases stopped
  | outside running beyond =>
      exact Nat.min_le_left ..
  | unknown running fetched missing =>
      rw [instructionEnd_of_missing fetched missing]
      exact Nat.min_le_right ..
  | @refused opcode builtIn fault running fetched found refuses =>
      rw [instructionEnd_of_found fetched found]
      cases fault with
      | addressOutOfRange =>
          exact Nat.min_le_left ..
      | _ =>
          exact Nat.min_le_right ..
  | cutOff running fetched found performs full =>
      rw [instructionEnd_of_found fetched found]
      exact Nat.min_le_right ..
  | @performed opcode builtIn registers output
      running fetched found performs accepts =>
      rw [instructionEnd_of_found fetched found]
      cases builtIn with
      | halt =>
          exact Nat.min_le_right ..
      | loadImmediate | printRegister | calculate =>
          exact (stops (congrArg Except.ok running)).elim

/-- A step reads the bytes of the instruction in front of the machine only. -/
theorem step_withMemory
    (encodesOperands : set.EncodesOperands)
    (sink : Sink)
    {memory : Memory}
    (agrees :
      memory.AgreesBetween machine.memory machine.counter
        (instructionEnd set machine)) :
    EndsAlike memory (step set machine sink)
      (step set (machine.withMemory memory) sink) := by
  have steps := builtInSteps_step usesBuiltIns machine sink
  generalize step set machine sink = outcome at steps ⊢
  cases steps with
  | @halted halt stopped =>
      have again : (machine.withMemory memory).state = .halted halt :=
        stopped
      rw [step_of_halted again]
      exact ⟨rfl, rfl, rfl⟩
  | outside running beyond =>
      have again : BuiltInSteps set (machine.withMemory memory) sink _ :=
        .outside running beyond
      rw [← again.eq_step]
      exact ⟨rfl, rfl, rfl⟩
  | unknown running fetched missing =>
      have again : BuiltInSteps set (machine.withMemory memory) sink _ :=
        .unknown running (fetched_of_agrees agrees fetched) missing
      rw [← again.eq_step]
      exact ⟨rfl, rfl, rfl⟩
  | refused running fetched found refuses =>
      have again : BuiltInSteps set (machine.withMemory memory) sink _ :=
        .refused running (fetched_of_agrees agrees fetched) found
          ((effect_of_agrees agrees fetched encodesOperands found).trans
            refuses)
      rw [← again.eq_step]
      exact ⟨rfl, rfl, rfl⟩
  | cutOff running fetched found performs full =>
      have again : BuiltInSteps set (machine.withMemory memory) sink _ :=
        .cutOff running (fetched_of_agrees agrees fetched) found
          ((effect_of_agrees agrees fetched encodesOperands found).trans
            performs)
          full
      rw [← again.eq_step]
      exact ⟨rfl, rfl, rfl⟩
  | performed running fetched found performs accepts =>
      have again : BuiltInSteps set (machine.withMemory memory) sink _ :=
        .performed running (fetched_of_agrees agrees fetched) found
          ((effect_of_agrees agrees fetched encodesOperands found).trans
            performs)
          accepts
      rw [← again.eq_step]
      exact ⟨rfl, rfl, rfl⟩

end Step

section Run

variable
  {set : InstructionSet}
  (usesBuiltIns : set.UsesBuiltIns)

include usesBuiltIns

/-- No run with built-in routines changes memory. -/
theorem memory_run
    (machine : Machine)
    (sink : Sink) :
    (run set machine sink).machine.memory = machine.memory :=
  run_preserves usesBuiltIns.neverRetreats
    (fun _ _ before => (memory_step usesBuiltIns).trans before) rfl

/-- A run ends no sooner than its first instruction does. -/
theorem instructionEnd_le_codeEnd_run
    (machine : Machine)
    (sink : Sink)
    (running : machine.state = .running) :
    min 256 (instructionEnd set machine) ≤
      codeEnd (run set machine sink) := by
  have neverRetreats := usesBuiltIns.neverRetreats
  induction machine, sink using run_induction neverRetreats with
  | stop machine sink stops =>
      rw [run_of_stops neverRetreats stops]
      exact instructionEnd_le_of_stops usesBuiltIns running stops
  | next machine sink goesOn inductionHypothesis =>
      rw [run_of_goesOn neverRetreats goesOn]
      refine Nat.le_trans ?_ (inductionHypothesis (state_of_result goesOn))
      have ahead :=
        counter_le_instructionEnd set (step set machine sink).machine
      rw [counter_step_of_goesOn usesBuiltIns goesOn] at ahead
      omega

/-- Memory that agrees on what a run executes leads to the same first step. -/
theorem step_withMemory_of_run
    (encodesOperands : set.EncodesOperands)
    {memory : Memory}
    {machine : Machine}
    {sink : Sink}
    (running : machine.state = .running)
    (agrees :
      memory.AgreesBetween machine.memory machine.counter
        (codeEnd (run set machine sink))) :
    EndsAlike memory (step set machine sink)
      (step set (machine.withMemory memory) sink) :=
  step_withMemory usesBuiltIns encodesOperands sink
    (agrees.narrow (Nat.le_refl _)
      (instructionEnd_le_codeEnd_run usesBuiltIns machine sink running))

/-- A run reads no memory but that of the instructions it executes. -/
theorem run_withMemory
    (encodesOperands : set.EncodesOperands)
    (memory : Memory)
    (machine : Machine)
    (sink : Sink)
    (running : machine.state = .running)
    (agrees :
      memory.AgreesBetween machine.memory machine.counter
        (codeEnd (run set machine sink))) :
    EndsAlike memory (run set machine sink)
      (run set (machine.withMemory memory) sink) := by
  have neverRetreats := usesBuiltIns.neverRetreats
  induction machine, sink using run_induction neverRetreats with
  | stop machine sink stops =>
      have stepped :=
        step_withMemory_of_run usesBuiltIns encodesOperands running agrees
      have stopsToo :
          (step set (machine.withMemory memory) sink).result ≠
            .ok .running := by
        rwa [stepped.result]
      rw [run_of_stops neverRetreats stops,
        run_of_stops neverRetreats stopsToo]
      exact stepped
  | next machine sink goesOn inductionHypothesis =>
      have stepped :=
        step_withMemory_of_run usesBuiltIns encodesOperands running agrees
      have goesOnToo :
          (step set (machine.withMemory memory) sink).result =
            .ok .running := by
        rwa [stepped.result]
      have moved := (counter_lt_of_goesOn neverRetreats goesOn).2
      rw [run_of_goesOn neverRetreats goesOn] at agrees ⊢
      rw [run_of_goesOn neverRetreats goesOnToo, stepped.machine, stepped.sink]
      have rest :=
        inductionHypothesis (state_of_result goesOn) (by
          rw [memory_step usesBuiltIns]
          exact agrees.narrow moved.le (Nat.min_le_right ..))
      exact ⟨rest.result, rest.machine, rest.sink⟩

end Run

/--
Run a machine with the standard set, and let it stand in front of the code that
it executes: from the program counter up to the end of the run. Any other memory
that agrees on this code leads to the same result, the same output and the same
machine in that memory. If the run was halted by an instruction, the code ends
where the program counter does, so whatever is behind it is inert. And a byte
before the program counter may be written before the run or after it.
-/
theorem run_local_to_executed_code
    {machine : Machine}
    (running : machine.state = .running)
    (sink : Sink) :
    (∀ memory : Memory,
        memory.AgreesBetween machine.memory machine.counter
          (codeEnd (run .standard machine sink)) →
        EndsAlike memory (run .standard machine sink)
          (run .standard (machine.withMemory memory) sink)) ∧
      ((run .standard machine sink).result = .ok (.halted .instruction) →
        ∀ memory : Memory,
          memory.AgreesBetween machine.memory machine.counter
            (run .standard machine sink).machine.counter →
          EndsAlike memory (run .standard machine sink)
            (run .standard (machine.withMemory memory) sink)) ∧
      ∀ address value,
        address < machine.counter →
        (machine.write address value).map
            (fun written => (run .standard written sink).machine) =
          (run .standard machine sink).machine.write address value := by
  have locally :=
    fun memory =>
      run_withMemory InstructionSet.usesBuiltIns_standard
        InstructionSet.encodesOperands_standard memory machine sink running
  refine ⟨locally, ?_, ?_⟩
  · intro halted memory agrees
    have ending :
        codeEnd (run .standard machine sink) =
          (run .standard machine sink).machine.counter := by
      rw [codeEnd, halted]
    exact locally memory (ending ▸ agrees)
  · intro address value passed
    have kept : (run .standard machine sink).machine.memory = machine.memory :=
      memory_run InstructionSet.usesBuiltIns_standard machine sink
    simp only [Machine.write, kept]
    cases wrote : machine.memory.write? address value with
    | none =>
        rfl
    | some memory =>
        have alike :=
          locally memory fun other behind _ => by
            rw [Memory.read?_of_write? wrote, if_neg]
            exact Nat.ne_of_gt (Nat.lt_of_lt_of_le passed behind)
        exact congrArg Except.ok alike.machine

/-- A machine behind one instruction that prints and in front of another. -/
def amidCode : Machine :=
  { initial with
    memory := Memory.ofBytes [71, 0, 130, 0, 8, 71, 0, 1, 71, 0]
    counter := 2 }

/-- Memory with the code in front of that machine between other bytes. -/
def sameCode : Memory :=
  Memory.ofBytes [1, 255, 130, 0, 8, 71, 0, 1, 255, 1]

/-- What stands before the code and behind its halt makes no difference. -/
theorem run_local_to_executed_code_amid :
    amidCode.state = .running ∧
      codeEnd (run .standard amidCode Sink.unlimited) = 8 ∧
      (run .standard (amidCode.withMemory sameCode)
          Sink.unlimited).result =
        .ok (.halted .instruction) ∧
      (run .standard (amidCode.withMemory sameCode)
          Sink.unlimited).sink.accepted =
        [56, 10] ∧
      (amidCode.write 1 7).map
          (fun written => (run .standard written Sink.unlimited).machine) =
        (run .standard amidCode Sink.unlimited).machine.write 1 7 := by
  have running : amidCode.state = .running := rfl
  have ending : codeEnd (run .standard amidCode Sink.unlimited) = 8 := by
    decide +kernel
  have agrees :
      ∀ address < 8,
        2 ≤ address →
        sameCode.read? address = amidCode.memory.read? address := by
    decide +kernel
  obtain ⟨locally, _, commutes⟩ :=
    run_local_to_executed_code running Sink.unlimited
  have alike :=
    locally sameCode fun address behind before =>
      agrees address (by rwa [ending] at before) behind
  refine ⟨running, ending, ?_, ?_, commutes 1 7 (by decide)⟩
  · rw [alike.result]
    decide +kernel
  · rw [alike.sink]
    decide +kernel

end Machine

end EightBit
