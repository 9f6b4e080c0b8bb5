import EightBit.Image.Source
import EightBit.Proofs.Machine.Consistency

namespace EightBit

/-!
# How a program ends

With the standard set the program counter is never behind address 256. So what is
missing first where a program runs out of memory, be it an opcode or an operand, is
always the byte at address 256. Of the other faults only that of a missing register
is left: the only opcode of the arithmetic unit selects an operation, an image fits
into memory, and a sink without limit accepts all output.
-/

/-- An opcode without a standard routine is none of the four. -/
theorem InstructionSet.not_mem_of_standard
    {opcode : UInt8}
    (missing : standard.routine? opcode = none) :
    opcode ∉
      [Instruction.halt, Instruction.loadImmediate, Instruction.multiply,
        Instruction.printRegister] := by
  rw [routine?_standard] at missing
  split_ifs at missing
  simp [*]

/-- The arithmetic unit supports multiplication. -/
theorem Evaluation.operation_multiply :
    operation Instruction.multiply =
      .ok fun first second => first * second % 256 :=
  rfl

namespace Machine

/-- The ways in which the run of a program can end, and the machine it leaves. -/
inductive EndsProgram (reached : Machine) : Except Fault State → Prop where
  | halted :
      EndsProgram reached (.ok (.halted .instruction))
  | unknown
      {opcode : UInt8}
      {address : Nat}
      (inside : address ≤ 255)
      (present : reached.memory.read? address = some opcode)
      (unassigned :
        opcode ∉
          [Instruction.halt, Instruction.loadImmediate, Instruction.multiply,
            Instruction.printRegister]) :
      EndsProgram reached (.ok (.halted (.unknownOpcode opcode address)))
  /-- An operand of the instruction in front of the machine names no register. -/
  | missingRegister
      {opcode register : UInt8}
      {number : Nat}
      (fetched : reached.memory.read? reached.counter = some opcode)
      (first : 1 ≤ number)
      (last : number ≤ Instruction.operandCount opcode)
      (present :
        reached.memory.read? (reached.counter + number) = some register)
      (missing : 8 ≤ register.toNat) :
      EndsProgram reached (.error (.registerOutOfRange register))
  | endOfMemory :
      EndsProgram reached (.error (.addressOutOfRange 256))

/-- A standard routine is refused an effect in one of two of these ways. -/
theorem EndsProgram.of_refusal
    (machine : Machine)
    {opcode : UInt8}
    {builtIn : BuiltIn}
    {fault : Fault}
    (fetched : machine.memory.read? machine.counter = some opcode)
    (found :
      InstructionSet.standard.routine? opcode = some builtIn.routine)
    (refusal :
      Evaluation.Refusal machine.memory machine.counter opcode builtIn fault) :
    EndsProgram machine (.error fault) := by
  obtain rfl := InstructionSet.eq_opcode_of_standard found
  cases refusal with
  | unsupported refused =>
      -- The standard set leads to the arithmetic unit by multiplication only.
      cases Evaluation.operation_multiply.symm.trans refused
  | endOfMemory =>
      exact .endOfMemory
  | missingRegister first last present missing =>
      rw [← BuiltIn.operandCount_opcode] at last
      exact .missingRegister fetched first last present missing

section Run

variable
  {machine : Machine}
  {sink : Sink}
  (running : machine.state = .running)
  (near : machine.counter ≤ 256)
  (noLimit : sink.limit = none)

include running near noLimit

/-- Where the loop stops, the program ends in one of the ways. -/
theorem endsProgram_step
    (stops : (step .standard machine sink).result ≠ .ok .running) :
    EndsProgram (step .standard machine sink).machine
      (step .standard machine sink).result := by
  have steps :=
    builtInSteps_step InstructionSet.usesBuiltIns_standard machine sink
  generalize step .standard machine sink = outcome at stops steps ⊢
  cases steps with
  | halted stopped =>
      cases running.symm.trans stopped
  | outside _ beyond =>
      have rightBehind : machine.counter = 256 :=
        Nat.le_antisymm near beyond
      rw [rightBehind]
      exact .endOfMemory
  | unknown _ fetched missing =>
      have inside := Memory.lt_of_read?_eq_some fetched
      exact
        .unknown (Nat.le_of_lt_succ inside) fetched
          (InstructionSet.not_mem_of_standard missing)
  | @refused opcode _ _ _ fetched found refuses =>
      have inside := Memory.lt_of_read?_eq_some fetched
      have refusal := Evaluation.refusal_of_refuses inside refuses
      exact
        EndsProgram.of_refusal (machine.withInstruction opcode) fetched found
          refusal
  | cutOff _ _ _ _ full =>
      cases (Sink.verdict_of_no_limit noLimit _).symm.trans full
  | @performed opcode builtIn =>
      cases builtIn with
      | halt =>
          exact .halted
      | loadImmediate | printRegister | calculate =>
          exact (stops (congrArg Except.ok running)).elim

theorem endsProgram_run :
    EndsProgram (run .standard machine sink).machine
      (run .standard machine sink).result := by
  have usesBuiltIns := InstructionSet.usesBuiltIns_standard
  have neverRetreats := usesBuiltIns.neverRetreats
  induction machine, sink using run_induction neverRetreats with
  | stop machine sink stops =>
      rw [run_of_stops neverRetreats stops]
      exact endsProgram_step running near noLimit stops
  | next machine sink goesOn inductionHypothesis =>
      rw [run_of_goesOn neverRetreats goesOn]
      -- The counter reaches 256 at most, which makes 256 the address of the fault.
      have stillNear :=
        counter_step_le usesBuiltIns InstructionSet.readsOperands_standard
          sink near
      exact
        inductionHypothesis (state_of_result goesOn) stillNear
          ((limit_step usesBuiltIns).trans noLimit)

end Run

end Machine

/-- The fresh machine with an image in its memory. -/
def Image.loaded (image : Image) : Machine :=
  Machine.initial.withMemory (Memory.ofBytes image.bytes)

/-- What comes of loading an image into a fresh machine and running it. -/
structure Image.RunsToEnd
    (image : Image)
    (sink : Sink) :
    Prop where
  loads : Machine.initial.load image.bytes = .ok image.loaded
  loop :
    ∃ count,
      Machine.Runs .standard image.loaded sink count
        (Machine.run .standard image.loaded sink)
  memory :
    (Machine.run .standard image.loaded sink).machine.memory =
      Memory.ofBytes image.bytes
  ending :
    Machine.EndsProgram (Machine.run .standard image.loaded sink).machine
      (Machine.run .standard image.loaded sink).result

/-- An image never fails to load, for it is no larger than memory. -/
theorem Image.load_initial (image : Image) :
    Machine.initial.load image.bytes = .ok image.loaded := by
  rw [Machine.load, if_pos image.fits, loaded, ← Memory.overlay_zero]
  rfl

theorem Image.runsToEnd
    {sink : Sink}
    (noLimit : sink.limit = none)
    (image : Image) :
    image.RunsToEnd sink where
  loads := image.load_initial
  loop := by
    obtain ⟨count, -, runs⟩ :=
      Machine.exists_runs_run
        InstructionSet.usesBuiltIns_standard.neverRetreats image.loaded sink
    exact ⟨count, runs⟩
  memory :=
    Machine.memory_run InstructionSet.usesBuiltIns_standard image.loaded sink
  ending := Machine.endsProgram_run rfl (Nat.zero_le 256) noLimit

/--
Whatever image is made of raw bytes or read from source text, it can be loaded
into a fresh machine, and its run on a sink that accepts everything ends in one of
four ways: a halt, an opcode in memory that is none of the standard ones, an
operand that names no register, or an access to address 256. It never ends by an
operation that is not supported, an image that is too large or refused output.
-/
theorem program_ends_in_four_ways
    {sink : Sink}
    (noLimit : sink.limit = none) :
    (∀ bytes image, Image.ofBytes bytes = .ok image → image.RunsToEnd sink) ∧
      ∀ source image, Image.parse source = .ok image → image.RunsToEnd sink :=
  ⟨fun _ image _ => image.runsToEnd noLimit,
    fun _ image _ => image.runsToEnd noLimit⟩

/-- Source text of a program that prints a register that there is not. -/
def printsMissing : String :=
  "10000010 # LDI R0,8\n00000000\n00001000\n01000111 # PRN R9\n00001001\n"

/-- The operand that is at fault stands behind the opcode that reads it. -/
theorem program_ends_in_four_ways_missing_register :
    Sink.unlimited.limit = none ∧
      ∃ image,
        Image.parse printsMissing = .ok image ∧
          image.bytes = [130, 0, 8, 71, 9] ∧
          (Machine.run .standard image.loaded Sink.unlimited).result =
            .error (.registerOutOfRange 9) ∧
          ∃ number,
            1 ≤ number ∧
              (Machine.run .standard image.loaded
                  Sink.unlimited).machine.read
                ((Machine.run .standard image.loaded
                    Sink.unlimited).machine.counter + number) =
                .ok 9 := by
  have noLimit : Sink.unlimited.limit = none := rfl
  let image : Image := ⟨[130, 0, 8, 71, 9], by decide⟩
  have parsed : Image.parse printsMissing = .ok image := by
    decide +kernel
  have result :
      (Machine.run .standard image.loaded Sink.unlimited).result =
        .error (.registerOutOfRange 9) := by
    decide +kernel
  have runs :=
    (program_ends_in_four_ways noLimit).2 printsMissing image parsed
  have ending := runs.ending
  rw [result] at ending
  cases ending with
  | missingRegister fetched first last present missing =>
      exact
        ⟨noLimit, image, parsed, rfl, result, _, first,
          Machine.read_eq_ok_iff.mpr present⟩

end EightBit
