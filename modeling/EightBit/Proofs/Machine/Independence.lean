import EightBit.Proofs.Machine.BuiltInStep
import EightBit.Proofs.Machine.Trail

namespace EightBit

/-!
# Control flow does not depend on registers

Of two machines with built-in routines that stand at the same place in the same
memory, each instruction faults in both or in neither and moves both to the same
place, whatever is in their registers: a register only ever gets into another
register or onto a line of output. So two runs go the same way and end alike, and
their outputs have as many lines as each other.
-/

/-- The number of lines in program output, each ended by a line feed. -/
def lineCount (output : List UInt8) : Nat :=
  output.count 10

theorem lineCount_append (first second : List UInt8) :
    lineCount (first ++ second) = lineCount first + lineCount second :=
  List.count_append

/-- A decimal digit is no line feed. -/
theorem Numeral.ofNat_digit_ne_lineFeed
    {value : Nat}
    {character : Char}
    (member : character ∈ write 10 value) :
    UInt8.ofNat character.toNat ≠ 10 := by
  have ascii := toNat_lt_of_mem_write_ten member
  rw [write_ten] at member
  have isDigit := Nat.isDigit_of_mem_toDigits (by decide) (by decide) member
  simp only [Char.isDigit, Bool.and_eq_true, decide_eq_true_eq] at isDigit
  have lower : 48 ≤ character.toNat := isDigit.1
  intro equal
  have code := congrArg UInt8.toNat equal
  rw [UInt8.toNat_ofNat_of_lt' (Nat.lt_trans ascii (by decide))] at code
  change character.toNat = 10 at code
  omega

/-- A value is printed on one line. -/
theorem lineCount_decimalLine (value : UInt8) :
    lineCount (Evaluation.decimalLine value) = 1 := by
  have digits :
      (10 : UInt8) ∉ Text.asciiBytes (Numeral.write 10 value.toNat) := by
    intro member
    obtain ⟨character, inDigits, equal⟩ := List.mem_map.mp member
    exact Numeral.ofNat_digit_ne_lineFeed inDigits equal
  rw [← Evaluation.outputLine_eq_decimalLine, outputLine, Text.asciiBytes,
    List.map_append, ← Text.asciiBytes, lineCount_append, lineCount,
    List.count_eq_zero_of_not_mem digits]
  rfl

namespace Evaluation

section Alike

variable {α β : Type}

/-- Two computations fault alike, or both succeed, with results so related. -/
inductive FaultAlike (related : α → α → Prop) :
    Except Fault α →
    Except Fault α →
    Prop where
  | faulted (fault : Fault) :
      FaultAlike related (.error fault) (.error fault)
  | succeeded
      {first second : α}
      (holds : related first second) :
      FaultAlike related (.ok first) (.ok second)

theorem FaultAlike.refl (computed : Except Fault α) :
    FaultAlike Eq computed computed := by
  cases computed with
  | error fault =>
      exact .faulted fault
  | ok result =>
      exact .succeeded rfl

theorem FaultAlike.bind
    {between : α → α → Prop}
    {related : β → β → Prop}
    {first second : Except Fault α}
    {firstNext secondNext : α → Except Fault β}
    (alike : FaultAlike between first second)
    (later :
      ∀ firstResult secondResult,
        between firstResult secondResult →
        FaultAlike related (firstNext firstResult)
          (secondNext secondResult)) :
    FaultAlike related (first >>= firstNext) (second >>= secondNext) := by
  cases alike with
  | faulted fault =>
      exact .faulted fault
  | succeeded holds =>
      exact later _ _ holds

/-- Computations that have the same faults fault alike. -/
theorem FaultAlike.of_error_iff
    {first second : Except Fault α}
    (together : ∀ fault, first = .error fault ↔ second = .error fault) :
    FaultAlike (fun _ _ => True) first second := by
  cases first with
  | error fault =>
      obtain rfl := (together fault).mp rfl
      exact .faulted fault
  | ok firstResult =>
      cases second with
      | error fault =>
          cases (together fault).mpr rfl
      | ok secondResult =>
          exact .succeeded trivial

end Alike

theorem valueOf_eq_error_iff
    {registers : Registers}
    {number : UInt8}
    {fault : Fault} :
    valueOf registers number = .error fault ↔
      8 ≤ number.toNat ∧ .registerOutOfRange number = fault := by
  have missing : registers.read? number = none ↔ 8 ≤ number.toNat :=
    Registers.read?_eq_none_iff
  rw [← missing, valueOf]
  cases registers.read? number <;> simp

theorem replace_eq_error_iff
    {registers : Registers}
    {number value : UInt8}
    {fault : Fault} :
    replace registers number value = .error fault ↔
      8 ≤ number.toNat ∧ .registerOutOfRange number = fault := by
  have missing : registers.write? number value = none ↔ 8 ≤ number.toNat :=
    Registers.write?_eq_none_iff
  rw [← missing, replace]
  cases registers.write? number value <;> simp

/-- Whether there is a register does not depend on what is in the registers. -/
theorem faultAlike_valueOf
    (first second : Registers)
    (number : UInt8) :
    FaultAlike (fun _ _ => True) (valueOf first number)
      (valueOf second number) :=
  .of_error_iff fun _ =>
    valueOf_eq_error_iff.trans valueOf_eq_error_iff.symm

/-- Whether a register can be written depends on its number only. -/
theorem faultAlike_replace
    (first second : Registers)
    (number firstValue secondValue : UInt8) :
    FaultAlike (fun _ _ => True) (replace first number firstValue)
      (replace second number secondValue) :=
  .of_error_iff fun _ =>
    replace_eq_error_iff.trans replace_eq_error_iff.symm

/--
With other registers an instruction has a fault as its effect exactly if it had
it before, and otherwise writes as many lines.
-/
theorem faultAlike_effect
    (memory : Memory)
    (address : Nat)
    (instruction : UInt8)
    (first second : Registers)
    (builtIn : BuiltIn) :
    FaultAlike
      (fun firstEffects secondEffects =>
        lineCount firstEffects.2 = lineCount secondEffects.2)
      (effect memory address instruction first builtIn)
      (effect memory address instruction second builtIn) := by
  cases builtIn with
  | halt =>
      exact .succeeded rfl
  | loadImmediate =>
      refine (FaultAlike.refl _).bind ?_
      rintro register _ rfl
      refine (FaultAlike.refl _).bind ?_
      rintro value _ rfl
      refine (faultAlike_replace first second _ _ _).bind fun _ _ _ => ?_
      exact .succeeded rfl
  | printRegister =>
      refine (FaultAlike.refl _).bind ?_
      rintro register _ rfl
      refine (faultAlike_valueOf first second _).bind
        fun firstValue secondValue _ => ?_
      refine .succeeded ?_
      rw [lineCount_decimalLine, lineCount_decimalLine]
  | calculate =>
      refine (FaultAlike.refl _).bind ?_
      rintro combine _ rfl
      refine (FaultAlike.refl _).bind ?_
      rintro firstNumber _ rfl
      refine (FaultAlike.refl _).bind ?_
      rintro secondNumber _ rfl
      refine (faultAlike_valueOf first second _).bind fun _ _ _ => ?_
      refine (faultAlike_valueOf first second _).bind fun _ _ _ => ?_
      refine (faultAlike_replace first second _ _ _).bind fun _ _ _ => ?_
      exact .succeeded rfl

end Evaluation

namespace Machine

/--
Two machines stand at the same place in the same memory, running or halted for
the same reason. Registers, flags and tracing may differ.
-/
structure Abreast (first second : Machine) : Prop where
  memory : first.memory = second.memory
  counter : first.counter = second.counter
  instruction : first.instruction = second.instruction
  state : first.state = second.state

namespace Abreast

variable {first second : Machine}

theorem running
    (abreast : Abreast first second)
    (running : first.state = .running) :
    second.state = .running :=
  abreast.state.symm.trans running

/-- Machines abreast have the same instruction in front of them. -/
theorem fetched
    (abreast : Abreast first second)
    {opcode : UInt8}
    (fetched : first.memory.read? first.counter = some opcode) :
    second.memory.read? second.counter = some opcode := by
  rw [← abreast.memory, ← abreast.counter, fetched]

theorem withInstruction
    (abreast : Abreast first second)
    (opcode : UInt8) :
    Abreast (first.withInstruction opcode) (second.withInstruction opcode) where
  memory := abreast.memory
  counter := abreast.counter
  instruction := rfl
  state := abreast.state

theorem haltUnknown
    (abreast : Abreast first second) :
    Abreast first.haltUnknown second.haltUnknown where
  memory := abreast.memory
  counter := abreast.counter
  instruction := abreast.instruction
  state := by
    simp only [Machine.haltUnknown, abreast.instruction, abreast.counter]

/-- Behind an effect on registers, machines that were abreast are so again. -/
theorem afterEffect
    (abreast : Abreast first second)
    (opcode : UInt8)
    (builtIn : BuiltIn)
    (firstRegisters secondRegisters : Registers) :
    Abreast (first.afterEffect opcode builtIn firstRegisters)
      (second.afterEffect opcode builtIn secondRegisters) where
  memory := abreast.memory
  counter := congrArg (· + Instruction.length opcode) abreast.counter
  instruction := rfl
  state := congrArg builtIn.stateAfter abreast.state

end Abreast

/--
Two outcomes, on sinks that accept everything, return the same, leave machines
abreast and have added as many lines to one sink as to the other.
-/
structure EndAbreast
    (firstSink secondSink : Sink)
    (first second : Outcome State) :
    Prop where
  result : first.result = second.result
  machine : Abreast first.machine second.machine
  output :
    ∃ firstOutput secondOutput,
      first.sink =
          { firstSink with accepted := firstSink.accepted ++ firstOutput } ∧
        second.sink =
          { secondSink with
            accepted := secondSink.accepted ++ secondOutput } ∧
        lineCount firstOutput = lineCount secondOutput

namespace EndAbreast

variable {firstSink secondSink : Sink} {first second : Outcome State}

/-- What has written nothing has left the same number of lines. -/
theorem of_silent
    (result : first.result = second.result)
    (machine : Abreast first.machine second.machine)
    (firstSilent : first.sink = firstSink)
    (secondSilent : second.sink = secondSink) :
    EndAbreast firstSink secondSink first second where
  result := result
  machine := machine
  output := ⟨[], [], by simp [firstSilent], by simp [secondSilent], rfl⟩

theorem firstAccepts
    (ended : EndAbreast firstSink secondSink first second)
    (accepts : firstSink.limit = none) :
    first.sink.limit = none := by
  obtain ⟨_, _, written, _⟩ := ended.output
  rwa [written]

theorem secondAccepts
    (ended : EndAbreast firstSink secondSink first second)
    (accepts : secondSink.limit = none) :
    second.sink.limit = none := by
  obtain ⟨_, _, _, written, _⟩ := ended.output
  rwa [written]

/-- What follows on outcomes abreast, and ends abreast, does so from their start. -/
theorem trans
    {firstLater secondLater : Outcome State}
    (earlier : EndAbreast firstSink secondSink first second)
    (later : EndAbreast first.sink second.sink firstLater secondLater)
    (firstNotices secondNotices : List Notice) :
    EndAbreast firstSink secondSink (firstLater.after firstNotices)
      (secondLater.after secondNotices) where
  result := later.result
  machine := later.machine
  output := by
    obtain ⟨firstBefore, secondBefore, firstSame, secondSame, same⟩ :=
      earlier.output
    obtain ⟨firstBehind, secondBehind, firstLast, secondLast, sameLast⟩ :=
      later.output
    refine ⟨firstBefore ++ firstBehind, secondBefore ++ secondBehind,
      ?_, ?_, ?_⟩
    · simp [firstLast, firstSame]
    · simp [secondLast, secondSame]
    · rw [lineCount_append, lineCount_append, same, sameLast]

end EndAbreast

section Run

variable
  {set : InstructionSet}
  (usesBuiltIns : set.UsesBuiltIns)
  {first second : Machine}
  {firstSink secondSink : Sink}

include usesBuiltIns

/-- Machines abreast make the same step, and are abreast behind it. -/
theorem step_abreast
    (abreast : Abreast first second)
    (firstAccepts : firstSink.limit = none)
    (secondAccepts : secondSink.limit = none) :
    EndAbreast firstSink secondSink (step set first firstSink)
      (step set second secondSink) := by
  have steps := builtInSteps_step usesBuiltIns first firstSink
  generalize step set first firstSink = outcome at steps ⊢
  cases steps with
  | halted stopped =>
      rw [step_of_halted (abreast.state.symm.trans stopped)]
      exact .of_silent rfl abreast rfl rfl
  | outside running beyond =>
      have beyondToo : 256 ≤ second.counter :=
        abreast.counter ▸ beyond
      rw [step_of_counter_le (abreast.running running) beyondToo]
      exact .of_silent (by rw [abreast.counter]) abreast rfl rfl
  | @unknown opcode running fetched missing =>
      have unknown : BuiltInSteps set second secondSink _ :=
        .unknown (abreast.running running) (abreast.fetched fetched) missing
      rw [← unknown.eq_step]
      exact
        .of_silent (by rw [abreast.counter])
          (abreast.withInstruction opcode).haltUnknown rfl rfl
  | @refused opcode builtIn fault running fetched found refuses =>
      have alike :=
        Evaluation.faultAlike_effect first.memory first.counter opcode
          first.registers second.registers builtIn
      rw [refuses, abreast.memory, abreast.counter] at alike
      generalize refusesToo :
        Evaluation.effect second.memory second.counter opcode
          second.registers builtIn = effects at alike
      cases alike with
      | faulted =>
          have refused : BuiltInSteps set second secondSink _ :=
            .refused (abreast.running running) (abreast.fetched fetched) found
              refusesToo
          rw [← refused.eq_step]
          exact .of_silent rfl (abreast.withInstruction opcode) rfl rfl
  | cutOff running fetched found performs full =>
      -- The one way in which the content of a line could matter.
      rw [Sink.verdict_of_no_limit firstAccepts] at full
      cases full
  | @performed opcode builtIn registers output
      running fetched found performs accepts =>
      have alike :=
        Evaluation.faultAlike_effect first.memory first.counter opcode
          first.registers second.registers builtIn
      rw [performs, abreast.memory, abreast.counter] at alike
      generalize performsToo :
        Evaluation.effect second.memory second.counter opcode
          second.registers builtIn = effects at alike
      cases alike with
      | @succeeded _ effects sameLines =>
          have performed : BuiltInSteps set second secondSink _ :=
            .performed (abreast.running running) (abreast.fetched fetched) found
              performsToo (Sink.verdict_of_no_limit secondAccepts effects.2)
          rw [← performed.eq_step]
          refine ⟨by rw [abreast.state], abreast.afterEffect .., ?_⟩
          refine ⟨output, effects.2, ?_, ?_, sameLines⟩
          · rw [Sink.write_of_no_limit firstAccepts]
          · rw [Sink.write_of_no_limit secondAccepts]

/-- Runs from machines abreast end abreast, and go through the same addresses. -/
theorem run_abreast
    (first : Machine)
    (firstSink : Sink)
    (abreast : Abreast first second)
    (firstAccepts : firstSink.limit = none)
    (secondAccepts : secondSink.limit = none) :
    EndAbreast firstSink secondSink (run set first firstSink)
        (run set second secondSink) ∧
      visited set first firstSink = visited set second secondSink ∧
      ∃ count,
        Runs set first firstSink count (run set first firstSink) ∧
          Runs set second secondSink count (run set second secondSink) := by
  have neverRetreats := usesBuiltIns.neverRetreats
  -- The loop of the first machine drives the induction; that of the second one
  -- goes on and stops with it, since their steps return the same.
  induction first, firstSink using run_induction neverRetreats
      generalizing second secondSink with
  | stop first firstSink stops =>
      have stepped :=
        step_abreast usesBuiltIns abreast firstAccepts secondAccepts
      have stopsToo :
          (step set second secondSink).result ≠ .ok .running := by
        rwa [← stepped.result]
      rw [run_of_stops neverRetreats stops,
        run_of_stops neverRetreats stopsToo]
      refine ⟨stepped, ?_, 1, .stop stops, .stop stopsToo⟩
      cases state : first.state with
      | halted halt =>
          have halted : second.state = .halted halt :=
            abreast.state.symm.trans state
          rw [visited, trail_of_halted state, visited, trail_of_halted halted]
      | running =>
          rw [visited, trail_of_stops neverRetreats state stops, visited,
            trail_of_stops neverRetreats (abreast.running state) stopsToo]
          exact congrArg ([·]) abreast.counter
  | next first firstSink goesOn inductionHypothesis =>
      have stepped :=
        step_abreast usesBuiltIns abreast firstAccepts secondAccepts
      have goesOnToo :
          (step set second secondSink).result = .ok .running := by
        rwa [← stepped.result]
      obtain ⟨ended, sameWay, count, runs, runsToo⟩ :=
        inductionHypothesis stepped.machine
          (stepped.firstAccepts firstAccepts)
          (stepped.secondAccepts secondAccepts)
      rw [run_of_goesOn neverRetreats goesOn,
        run_of_goesOn neverRetreats goesOnToo]
      refine ⟨stepped.trans ended _ _, ?_, count + 1, .next goesOn runs,
        .next goesOnToo runsToo⟩
      rw [visited, trail_of_goesOn neverRetreats goesOn, List.map_cons,
        ← visited, sameWay, visited, visited,
        trail_of_goesOn neverRetreats goesOnToo, List.map_cons,
        abreast.counter]

end Run

/--
Let two machines with the same built-in routines agree in memory, program
counter, instruction byte and state, whatever their registers. On sinks that
accept everything, their loops make as many steps, at the same addresses in the
same order, and return the same halt or the same fault. They leave the machines in
agreement still, and have written as many lines.
-/
theorem run_independent_of_registers
    {set : InstructionSet}
    (usesBuiltIns : set.UsesBuiltIns)
    {first second : Machine}
    (sameMemory : first.memory = second.memory)
    (sameCounter : first.counter = second.counter)
    (sameInstruction : first.instruction = second.instruction)
    (sameState : first.state = second.state)
    {firstSink secondSink : Sink}
    (firstAccepts : firstSink.limit = none)
    (secondAccepts : secondSink.limit = none) :
    (run set first firstSink).result = (run set second secondSink).result ∧
      (run set first firstSink).machine.memory =
        (run set second secondSink).machine.memory ∧
      (run set first firstSink).machine.counter =
        (run set second secondSink).machine.counter ∧
      (run set first firstSink).machine.instruction =
        (run set second secondSink).machine.instruction ∧
      (run set first firstSink).machine.state =
        (run set second secondSink).machine.state ∧
      visited set first firstSink = visited set second secondSink ∧
      (∃ count,
        Runs set first firstSink count (run set first firstSink) ∧
          Runs set second secondSink count (run set second secondSink)) ∧
      ∃ firstOutput secondOutput,
        (run set first firstSink).sink =
            { firstSink with
              accepted := firstSink.accepted ++ firstOutput } ∧
          (run set second secondSink).sink =
            { secondSink with
              accepted := secondSink.accepted ++ secondOutput } ∧
          lineCount firstOutput = lineCount secondOutput := by
  obtain ⟨ended, sameWay, counted⟩ :=
    run_abreast usesBuiltIns first firstSink
      ⟨sameMemory, sameCounter, sameInstruction, sameState⟩ firstAccepts
      secondAccepts
  exact
    ⟨ended.result, ended.machine.memory, ended.machine.counter,
      ended.machine.instruction, ended.machine.state, sameWay, counted,
      ended.output⟩

/-- A machine in front of code that prints, multiplies and prints again. -/
def beforeProduct (registers : Registers) : Machine :=
  { initial with
    memory := Memory.ofBytes [71, 0, 162, 0, 1, 71, 0, 1]
    registers := registers }

/-- A register file with something to multiply. -/
def factors : Registers where
  values := #v[8, 30, 0, 0, 0, 0, 0, 0]

/-- From 8 and 30 as from zeros the code prints two lines, if not the same. -/
theorem run_independent_of_registers_product :
    InstructionSet.standard.UsesBuiltIns ∧
      (run .standard (beforeProduct factors) Sink.unlimited).result =
        .ok (.halted .instruction) ∧
      visited .standard (beforeProduct factors) Sink.unlimited =
        [0, 2, 5, 7] ∧
      (run .standard (beforeProduct factors) Sink.unlimited).sink.accepted =
        [56, 10, 50, 52, 48, 10] ∧
      lineCount
          (run .standard (beforeProduct factors)
            Sink.unlimited).sink.accepted =
        lineCount
          (run .standard (beforeProduct .initial)
            Sink.unlimited).sink.accepted := by
  obtain ⟨sameResult, _, _, _, _, sameWay, _, firstOutput, secondOutput,
      firstWritten, secondWritten, sameLines⟩ :=
    @run_independent_of_registers .standard InstructionSet.usesBuiltIns_standard
      (beforeProduct factors) (beforeProduct .initial) rfl rfl rfl rfl
      Sink.unlimited Sink.unlimited rfl rfl
  refine ⟨InstructionSet.usesBuiltIns_standard, ?_, ?_, ?_, ?_⟩
  · rw [sameResult]
    decide +kernel
  · rw [sameWay]
    decide +kernel
  · decide +kernel
  · rw [firstWritten, secondWritten]
    exact sameLines

end Machine

end EightBit
