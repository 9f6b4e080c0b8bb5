import EightBit.Proofs.Machine.BuiltInStep

namespace EightBit.Machine

/-!
# Faults are atomic and can be retried

A step with built-in routines that faults has changed nothing of the machine but
the byte fetched last, and nothing of the sink unless the fault is about output.
Tried again, it leads to the very same outcome; if the fault was about output
and the sink now accepts everything, it leads where the first attempt would have
led.
-/

/--
The outcomes of a number of steps, each taken from what the one before it has
left behind, whether that one has faulted or not.
-/
def attempts (set : InstructionSet) :
    Nat →
    Machine →
    Sink →
    List (Outcome State)
  | 0, _, _ => []
  | count + 1, machine, sink =>
      let outcome := step set machine sink
      outcome :: attempts set count outcome.machine outcome.sink

/-- Steps that lead back to where they start from all have one outcome. -/
theorem attempts_eq_replicate
    {set : InstructionSet}
    {outcome : Outcome State}
    (stays : step set outcome.machine outcome.sink = outcome)
    (count : Nat) :
    attempts set count outcome.machine outcome.sink =
      List.replicate count outcome := by
  induction count with
  | zero =>
      rfl
  | succ count inductionHypothesis =>
      rw [attempts, stays, inductionHypothesis, List.replicate_succ]

/-- What is about to print is so whatever was fetched last. -/
theorem Prints.withInstruction
    {set : InstructionSet}
    {machine : Machine}
    {opcode value : UInt8}
    (prints : Prints set machine opcode value)
    (instruction : UInt8) :
    Prints set (machine.withInstruction instruction) opcode value where
  running := prints.running
  fetched := prints.fetched
  dispatched := prints.dispatched
  named := prints.named

section Faults

variable
  {set : InstructionSet}
  (usesBuiltIns : set.UsesBuiltIns)
  {machine : Machine}
  {sink : Sink}
  {outcome : Outcome State}
  {fault : Fault}
  (stepped : step set machine sink = outcome)
  (faulted : outcome.result = .error fault)

include usesBuiltIns stepped faulted

/-- A fault leaves all of the machine as it was but the byte fetched last. -/
theorem machine_of_faulted :
    ∃ instruction,
      outcome.machine = machine.withInstruction instruction ∧
        (instruction = machine.instruction ∧
            256 ≤ machine.counter ∧
            fault = .addressOutOfRange machine.counter ∨
          machine.memory.read? machine.counter = some instruction) := by
  have steps := builtInSteps_step usesBuiltIns machine sink
  rw [stepped] at steps
  cases steps with
  | halted | unknown | performed =>
      cases faulted
  | outside running beyond =>
      obtain rfl := Except.error.inj faulted
      exact ⟨machine.instruction, rfl, .inl ⟨rfl, beyond, rfl⟩⟩
  | refused running fetched found refuses =>
      exact ⟨_, rfl, .inr fetched⟩
  | cutOff running fetched found performs full =>
      exact ⟨_, rfl, .inr fetched⟩

/-- A fault that is not about output has left the sink alone. -/
theorem sink_of_faulted
    (notOfOutput : Evaluation.NotOfOutput fault) :
    outcome.sink = sink := by
  have steps := builtInSteps_step usesBuiltIns machine sink
  rw [stepped] at steps
  cases steps with
  | cutOff running fetched found performs full =>
      exact (notOfOutput _ (Except.error.inj faulted).symm).elim
  | halted | outside | unknown | refused =>
      rfl
  | performed =>
      cases faulted

/-- A step that has faulted leads to the same outcome when it is tried again. -/
theorem step_of_faulted :
    step set outcome.machine outcome.sink = outcome := by
  have steps := builtInSteps_step usesBuiltIns machine sink
  rw [stepped] at steps
  cases steps with
  | halted | unknown | performed =>
      cases faulted
  | outside running beyond =>
      exact stepped
  | @refused opcode builtIn _ running fetched found refuses =>
      have again :
          BuiltInSteps set (machine.withInstruction opcode) sink _ :=
        .refused running fetched found refuses
      exact again.eq_step.symm
  | @cutOff opcode builtIn registers output failure
      running fetched found performs full =>
      have written := Sink.write_of_verdict_eq_error full
      have stillFull :
          (sink.write output).2.verdict output = .error failure :=
        congrArg Prod.fst written
      have again :
          BuiltInSteps set (machine.withInstruction opcode)
            (sink.write output).2 _ :=
        .cutOff running fetched found performs stillFull
      rw [← again.eq_step, written]
      rfl

/-- A fault about output comes of printing a line that does not fit. -/
theorem prints_of_faulted
    {failure : WriteFailure}
    (ofOutput : fault = .outputFailed failure) :
    ∃ opcode value,
      Prints set machine opcode value ∧
        outcome.machine = machine.withInstruction opcode ∧
        outcome.sink = (sink.write (Evaluation.decimalLine value)).2 ∧
        sink.verdict (Evaluation.decimalLine value) = .error failure := by
  subst ofOutput
  have steps := builtInSteps_step usesBuiltIns machine sink
  rw [stepped] at steps
  cases steps with
  | halted | unknown | performed =>
      cases faulted
  | outside running beyond =>
      cases faulted
  | @refused opcode builtIn _ running fetched found refuses =>
      have refusal :=
        Evaluation.refusal_of_refuses (Memory.lt_of_read?_eq_some fetched)
          refuses
      exact (refusal.notOfOutput failure (Except.error.inj faulted)).elim
  | @cutOff opcode builtIn registers output reason
      running fetched found performs full =>
      cases faulted
      have writes : output ≠ [] := by
        rintro rfl
        simp at full
      obtain ⟨value, prints, rfl⟩ :=
        Prints.of_effect running fetched found performs writes
      exact ⟨opcode, value, prints, rfl, rfl, full⟩

end Faults

/--
Let a step with built-in routines fault. All of the machine is as it was, but
for the byte fetched last; and unless the fault is about output, so is the sink.
However often the step is tried again, each time it leads to the same outcome.
If the fault is about output, the sink has kept a part in front of the line to
print, but not all of it; and on a sink that accepts everything the step then
writes the whole line and goes where it would have gone at first.
-/
theorem faulted_step_atomic_and_resumable
    {set : InstructionSet}
    (usesBuiltIns : set.UsesBuiltIns)
    {machine : Machine}
    {sink : Sink}
    {outcome : Outcome State}
    {fault : Fault}
    (stepped : step set machine sink = outcome)
    (faulted : outcome.result = .error fault) :
    (∃ instruction,
        outcome.machine = machine.withInstruction instruction ∧
          (instruction = machine.instruction ∧
              256 ≤ machine.counter ∧
              fault = .addressOutOfRange machine.counter ∨
            machine.memory.read? machine.counter = some instruction)) ∧
      ((∀ failure, fault ≠ .outputFailed failure) → outcome.sink = sink) ∧
      (∀ count,
        attempts set count outcome.machine outcome.sink =
          List.replicate count outcome) ∧
      ∀ failure,
        fault = .outputFailed failure →
        ∃ opcode value kept,
          Prints set machine opcode value ∧
            outcome.sink =
              { sink with accepted := sink.accepted ++ kept } ∧
            kept <+: Evaluation.decimalLine value ∧
            kept ≠ Evaluation.decimalLine value ∧
            ∀ later free : Sink,
              later.limit = none →
              free.limit = none →
              (step set outcome.machine later).result = .ok .running ∧
                (step set outcome.machine later).sink =
                  { later with
                    accepted :=
                      later.accepted ++ Evaluation.decimalLine value } ∧
                (step set outcome.machine later).machine =
                  (step set machine free).machine := by
  refine ⟨machine_of_faulted usesBuiltIns stepped faulted,
    sink_of_faulted usesBuiltIns stepped faulted,
    attempts_eq_replicate (step_of_faulted usesBuiltIns stepped faulted), ?_⟩
  intro failure ofOutput
  obtain ⟨opcode, value, prints, left, written, full⟩ :=
    prints_of_faulted usesBuiltIns stepped faulted ofOutput
  refine ⟨opcode, value, sink.fitting (Evaluation.decimalLine value), prints,
    written, Sink.fitting_prefix _ _,
    Sink.fitting_ne_of_verdict_eq_error full, ?_⟩
  intro later free laterAccepts freeAccepts
  have retried :=
    (prints.withInstruction opcode).step_of_accepts
      (Sink.verdict_of_no_limit laterAccepts _)
  have unhindered :=
    prints.step_of_accepts (Sink.verdict_of_no_limit freeAccepts _)
  rw [left, retried, unhindered, Sink.write_of_no_limit laterAccepts]
  exact ⟨rfl, rfl, rfl⟩

/-- A machine that is about to print the value 244 of the last register. -/
def beforePrinting : Machine :=
  { initial with memory := Memory.ofBytes [71, 7] }

/--
A sink with room for two bytes keeps the first two digits of 244; three more
attempts lead to nothing else, and a sink that accepts everything gets the line.
-/
theorem faulted_step_atomic_and_resumable_printing :
    InstructionSet.standard.UsesBuiltIns ∧
      (step .standard beforePrinting
          (Sink.limited 2 .writeZero)).result =
        .error (.outputFailed .writeZero) ∧
      ∃ outcome,
        step .standard beforePrinting (Sink.limited 2 .writeZero) = outcome ∧
          outcome.sink.accepted = [50, 52] ∧
          attempts .standard 3 outcome.machine outcome.sink =
            [outcome, outcome, outcome] ∧
          (step .standard outcome.machine Sink.unlimited).sink.accepted =
            [50, 52, 52, 10] := by
  have faulted :
      (step .standard beforePrinting (Sink.limited 2 .writeZero)).result =
        .error (.outputFailed .writeZero) := by
    decide +kernel
  obtain ⟨_, _, stays, prints⟩ :=
    faulted_step_atomic_and_resumable
      InstructionSet.usesBuiltIns_standard rfl faulted
  obtain ⟨opcode, value, kept, line, left, _, _, resumes⟩ :=
    prints .writeZero rfl
  obtain ⟨_, resumed, _⟩ := resumes Sink.unlimited Sink.unlimited rfl rfl
  obtain ⟨register, present, named⟩ := line.named
  have operand : beforePrinting.memory.read? 1 = some 7 := by
    decide +kernel
  obtain rfl : (7 : UInt8) = register :=
    Option.some.inj (operand.symm.trans present)
  obtain rfl : (244 : UInt8) = value :=
    Option.some.inj named
  refine ⟨InstructionSet.usesBuiltIns_standard, faulted, _, rfl, ?_,
    stays 3, ?_⟩
  · decide +kernel
  · rw [resumed]
    decide +kernel

end EightBit.Machine
