import EightBit.Proofs.Machine.BuiltInStep
import EightBit.Proofs.Machine.Trail

namespace EightBit

/-!
# A limited sink truncates a run

A run with built-in routines on a limited sink and the same run on one that
accepts everything go together as long as the output fits. The first line that
does not fit ends the run on the limited sink: the part in front of it that fits
is kept, and the machine stands where it was about to print that line.
-/

namespace Sink

/-- The sink with a limit put on it. -/
def withLimit
    (sink : Sink)
    (limit : SinkLimit) :
    Sink :=
  { sink with limit := some limit }

section Limit

variable
  {sink : Sink}
  {limit : SinkLimit}
  {bytes : List UInt8}

/-- Bytes that stay within a limit are written as if there were none. -/
theorem write_withLimit_of_fits
    (noLimit : sink.limit = none)
    (fits : (sink.write bytes).2.accepted.length ≤ limit.capacity) :
    (sink.withLimit limit).write bytes =
      (.ok (), (sink.write bytes).2.withLimit limit) := by
  rw [write_of_no_limit noLimit, List.length_append] at fits
  have room : (sink.withLimit limit).hasRoom bytes.length := by
    refine decide_eq_true ?_
    change bytes.length ≤ limit.capacity - sink.accepted.length
    omega
  rw [write, verdict_eq_ok_iff.mpr room, fitting_of_hasRoom room,
    write_of_no_limit noLimit]
  rfl

/-- Of bytes that do not stay within a limit the part in front of it is kept. -/
theorem write_withLimit_of_lt
    (noLimit : sink.limit = none)
    (within : sink.accepted.length ≤ limit.capacity)
    (beyond : limit.capacity < (sink.write bytes).2.accepted.length) :
    (sink.withLimit limit).write bytes =
      (.error limit.failure,
        ⟨(sink.write bytes).2.accepted.take limit.capacity, some limit⟩) := by
  rw [write_of_no_limit noLimit] at beyond ⊢
  rw [List.length_append] at beyond
  have full : (sink.withLimit limit).verdict bytes = .error limit.failure := by
    refine verdict_eq_error_iff.mpr ⟨limit, rfl, rfl, ?_⟩
    change limit.capacity - sink.accepted.length < bytes.length
    omega
  rw [write, full, List.take_append, List.take_of_length_le within]
  rfl

end Limit

end Sink

/-- The same outcome on a sink with a limit put on it. -/
def Outcome.withLimit
    (outcome : Outcome State)
    (limit : SinkLimit) :
    Outcome State :=
  { outcome with sink := outcome.sink.withLimit limit }

namespace Machine

section Step

variable
  {set : InstructionSet}
  (usesBuiltIns : set.UsesBuiltIns)
  {machine : Machine}
  {sink : Sink}

include usesBuiltIns

/-- A step adds to the output that the sink has accepted and takes none back. -/
theorem accepted_prefix_step :
    sink.accepted <+: (step set machine sink).sink.accepted := by
  have steps := builtInSteps_step usesBuiltIns machine sink
  generalize step set machine sink = outcome at steps ⊢
  cases steps with
  | halted | outside | unknown | refused =>
      exact List.prefix_refl _
  | cutOff | performed =>
      exact List.prefix_append _ _

/-- A step whose output stays within a limit does not notice the limit. -/
theorem step_withLimit_of_fits
    {limit : SinkLimit}
    (noLimit : sink.limit = none)
    (fits :
      (step set machine sink).sink.accepted.length ≤ limit.capacity) :
    step set machine (sink.withLimit limit) =
      (step set machine sink).withLimit limit := by
  have steps := builtInSteps_step usesBuiltIns machine sink
  generalize step set machine sink = outcome at fits steps ⊢
  cases steps with
  | halted stopped =>
      exact (BuiltInSteps.halted stopped).eq_step.symm
  | outside running beyond =>
      exact (BuiltInSteps.outside running beyond).eq_step.symm
  | unknown running fetched missing =>
      exact (BuiltInSteps.unknown running fetched missing).eq_step.symm
  | refused running fetched found refuses =>
      exact (BuiltInSteps.refused running fetched found refuses).eq_step.symm
  | cutOff running fetched found performs full =>
      rw [Sink.verdict_of_no_limit noLimit] at full
      cases full
  | performed running fetched found performs accepts =>
      have written := Sink.write_withLimit_of_fits noLimit fits
      have stillAccepts : (sink.withLimit limit).verdict _ = .ok () :=
        congrArg Prod.fst written
      have limited :=
        BuiltInSteps.performed running fetched found performs stillAccepts
      rw [← limited.eq_step, written]
      rfl

/-- A step whose output leaves a limit prints, and on the limited sink it faults. -/
theorem step_withLimit_of_lt
    {limit : SinkLimit}
    (noLimit : sink.limit = none)
    (within : sink.accepted.length ≤ limit.capacity)
    (beyond :
      limit.capacity < (step set machine sink).sink.accepted.length) :
    ∃ opcode value,
      Prints set machine opcode value ∧
        (step set machine sink).sink.accepted =
          sink.accepted ++ Evaluation.decimalLine value ∧
        step set machine (sink.withLimit limit) =
          ⟨.error (.outputFailed limit.failure),
            machine.withInstruction opcode,
            ⟨(step set machine sink).sink.accepted.take limit.capacity,
              some limit⟩,
            machine.traceNotices⟩ := by
  have steps := builtInSteps_step usesBuiltIns machine sink
  generalize step set machine sink = outcome at beyond steps ⊢
  cases steps with
  | halted | outside | unknown | refused =>
      exact (Nat.not_lt.mpr within beyond).elim
  | cutOff running fetched found performs full =>
      rw [Sink.verdict_of_no_limit noLimit] at full
      cases full
  | @performed opcode builtIn registers output
      running fetched found performs accepts =>
      have writes : output ≠ [] := by
        rintro rfl
        rw [Sink.write_nil_sink] at beyond
        exact Nat.not_lt.mpr within beyond
      obtain ⟨value, prints, rfl⟩ :=
        Prints.of_effect running fetched found performs writes
      have written := Sink.write_withLimit_of_lt noLimit within beyond
      have full :
          (sink.withLimit limit).verdict (Evaluation.decimalLine value) =
            .error limit.failure :=
        congrArg Prod.fst written
      refine ⟨opcode, value, prints, ?_, ?_⟩
      · rw [Sink.write_of_no_limit noLimit]
      · rw [prints.step_of_full full, written]

end Step

/-- An attempt prints a line that ends behind a number of bytes of output. -/
def Overruns
    (set : InstructionSet)
    (capacity : Nat)
    (attempt : Machine × Sink) :
    Prop :=
  ∃ opcode value,
    Prints set attempt.1 opcode value ∧
      capacity <
        attempt.2.accepted.length + (Evaluation.decimalLine value).length

/--
In a trail a machine, about to execute an opcode, is the first to print a line
that ends behind a number of bytes of output.
-/
inductive FirstOverrun
    (set : InstructionSet)
    (capacity : Nat)
    (printing : Machine)
    (opcode : UInt8) :
    List (Machine × Sink) →
    Prop where
  | here
      {sink : Sink}
      {later : List (Machine × Sink)}
      (fetched : printing.memory.read? printing.counter = some opcode)
      (overruns : Overruns set capacity (printing, sink)) :
      FirstOverrun set capacity printing opcode ((printing, sink) :: later)
  | later
      {attempt : Machine × Sink}
      {rest : List (Machine × Sink)}
      (fits : ¬Overruns set capacity attempt)
      (first : FirstOverrun set capacity printing opcode rest) :
      FirstOverrun set capacity printing opcode (attempt :: rest)

/-- A machine that stays within a limit is not about to overrun it. -/
theorem not_overruns_of_fits
    {set : InstructionSet}
    {machine : Machine}
    {sink : Sink}
    {capacity : Nat}
    (noLimit : sink.limit = none)
    (fits : (step set machine sink).sink.accepted.length ≤ capacity) :
    ¬Overruns set capacity (machine, sink) := by
  rintro ⟨opcode, value, prints, beyond⟩
  rw [prints.step_of_accepts (Sink.verdict_of_no_limit noLimit _),
    Sink.write_of_no_limit noLimit, List.length_append] at fits
  exact Nat.not_lt.mpr fits beyond

section Run

variable
  {set : InstructionSet}
  (usesBuiltIns : set.UsesBuiltIns)

include usesBuiltIns

/-- A run adds to the output that the sink has accepted and takes none back. -/
theorem accepted_prefix_run
    (machine : Machine)
    (sink : Sink) :
    sink.accepted <+: (run set machine sink).sink.accepted := by
  have neverRetreats := usesBuiltIns.neverRetreats
  induction machine, sink using run_induction neverRetreats with
  | stop machine sink stops =>
      rw [run_of_stops neverRetreats stops]
      exact accepted_prefix_step usesBuiltIns
  | next machine sink goesOn inductionHypothesis =>
      rw [run_of_goesOn neverRetreats goesOn]
      exact (accepted_prefix_step usesBuiltIns).trans inductionHypothesis

/-- A run whose output stays within a limit does not notice the limit. -/
theorem run_withLimit_of_fits
    (limit : SinkLimit)
    (machine : Machine)
    (sink : Sink)
    (noLimit : sink.limit = none)
    (fits :
      (run set machine sink).sink.accepted.length ≤ limit.capacity) :
    run set machine (sink.withLimit limit) =
      (run set machine sink).withLimit limit := by
  have neverRetreats := usesBuiltIns.neverRetreats
  induction machine, sink using run_induction neverRetreats with
  | stop machine sink stops =>
      rw [run_of_stops neverRetreats stops] at fits ⊢
      have limited := step_withLimit_of_fits usesBuiltIns noLimit fits
      have limitedStops :
          (step set machine (sink.withLimit limit)).result ≠
            .ok .running := by
        rwa [limited]
      rw [run_of_stops neverRetreats limitedStops, limited]
  | next machine sink goesOn inductionHypothesis =>
      rw [run_of_goesOn neverRetreats goesOn] at fits ⊢
      have stepFits :
          (step set machine sink).sink.accepted.length ≤ limit.capacity :=
        (accepted_prefix_run usesBuiltIns _ _).length_le.trans fits
      have limited := step_withLimit_of_fits usesBuiltIns noLimit stepFits
      have limitedGoesOn :
          (step set machine (sink.withLimit limit)).result =
            .ok .running := by
        rwa [limited]
      have rest :=
        inductionHypothesis ((limit_step usesBuiltIns).trans noLimit) fits
      rw [run_of_goesOn neverRetreats limitedGoesOn, limited]
      exact congrArg (Outcome.after · (step set machine sink).notices) rest

/-- What the first step of a run has written is in front of what the run has. -/
theorem accepted_step_prefix_run
    (machine : Machine)
    (sink : Sink) :
    (step set machine sink).sink.accepted <+:
      (run set machine sink).sink.accepted := by
  have neverRetreats := usesBuiltIns.neverRetreats
  by_cases goesOn : (step set machine sink).result = .ok .running
  · rw [run_of_goesOn neverRetreats goesOn]
    exact accepted_prefix_run usesBuiltIns _ _
  · simp only [run_of_stops neverRetreats goesOn, List.prefix_refl]

section Truncation

variable
  (limit : SinkLimit)
  (machine : Machine)
  (sink : Sink)
  (noLimit : sink.limit = none)
  (within : sink.accepted.length ≤ limit.capacity)

include noLimit within

/-- Where the first step leaves a limit, the run on the limited sink ends there. -/
theorem run_withLimit_of_step_lt
    (beyond :
      limit.capacity < (step set machine sink).sink.accepted.length) :
    ∃ printing opcode notices,
      FirstOverrun set limit.capacity printing opcode
          (trail set machine sink) ∧
        printing.state = .running ∧
        run set machine (sink.withLimit limit) =
          ⟨.error (.outputFailed limit.failure),
            printing.withInstruction opcode,
            ⟨(run set machine sink).sink.accepted.take limit.capacity,
              some limit⟩,
            notices⟩ := by
  have neverRetreats := usesBuiltIns.neverRetreats
  obtain ⟨opcode, value, prints, line, limited⟩ :=
    step_withLimit_of_lt usesBuiltIns noLimit within beyond
  obtain ⟨later, trailShape⟩ :=
    exists_trail_eq_cons neverRetreats prints.running
  obtain ⟨rest, output⟩ := accepted_step_prefix_run usesBuiltIns machine sink
  have overruns : Overruns set limit.capacity (machine, sink) := by
    rw [line, List.length_append] at beyond
    exact ⟨opcode, value, prints, beyond⟩
  refine ⟨machine, opcode, machine.traceNotices, ?_, prints.running, ?_⟩
  · rw [trailShape]
    exact .here prints.fetched overruns
  · rw [run_of_stops neverRetreats (by simp [limited]), limited, ← output,
      List.take_append_of_le_length beyond.le]

/--
A run whose output leaves a limit ends, on the limited sink, where it is about
to print the first line that ends behind the limit.
-/
theorem run_withLimit_of_lt
    (beyond :
      limit.capacity < (run set machine sink).sink.accepted.length) :
    ∃ printing opcode notices,
      FirstOverrun set limit.capacity printing opcode
          (trail set machine sink) ∧
        printing.state = .running ∧
        run set machine (sink.withLimit limit) =
          ⟨.error (.outputFailed limit.failure),
            printing.withInstruction opcode,
            ⟨(run set machine sink).sink.accepted.take limit.capacity,
              some limit⟩,
            notices⟩ := by
  have neverRetreats := usesBuiltIns.neverRetreats
  induction machine, sink using run_induction neverRetreats with
  | stop machine sink stops =>
      have stepBeyond := beyond
      rw [run_of_stops neverRetreats stops] at stepBeyond
      exact
        run_withLimit_of_step_lt usesBuiltIns limit machine sink noLimit within
          stepBeyond
  | next machine sink goesOn inductionHypothesis =>
      by_cases stepFits :
          (step set machine sink).sink.accepted.length ≤ limit.capacity
      · rw [run_of_goesOn neverRetreats goesOn] at beyond ⊢
        have limited := step_withLimit_of_fits usesBuiltIns noLimit stepFits
        have limitedGoesOn :
            (step set machine (sink.withLimit limit)).result =
              .ok .running := by
          rwa [limited]
        obtain ⟨printing, opcode, notices, first, running, rest⟩ :=
          inductionHypothesis ((limit_step usesBuiltIns).trans noLimit)
            stepFits beyond
        refine
          ⟨printing, opcode, (step set machine sink).notices ++ notices, ?_,
            running, ?_⟩
        · rw [trail_of_goesOn neverRetreats goesOn]
          exact .later (not_overruns_of_fits noLimit stepFits) first
        · rw [run_of_goesOn neverRetreats limitedGoesOn, limited]
          exact congrArg (Outcome.after · (step set machine sink).notices) rest
      · exact
          run_withLimit_of_step_lt usesBuiltIns limit machine sink noLimit within
            (Nat.lt_of_not_le stepFits)

end Truncation

end Run

/--
Compare a run with built-in routines on a sink that accepts a number of bytes
with the run on one that accepts everything. If the output of the latter fits,
nothing differs. Otherwise the limited run faults over output, keeps just as many
bytes of that output as its sink accepts, and leaves the machine still running in
front of the first instruction whose line ends behind them; only the byte
fetched last is already that of this instruction.
-/
theorem limited_run_truncates
    {set : InstructionSet}
    (usesBuiltIns : set.UsesBuiltIns)
    (machine : Machine)
    (capacity : Nat)
    (failure : WriteFailure) :
    ((run set machine Sink.unlimited).sink.accepted.length ≤ capacity →
        (run set machine (Sink.limited capacity failure)).result =
            (run set machine Sink.unlimited).result ∧
          (run set machine (Sink.limited capacity failure)).machine =
            (run set machine Sink.unlimited).machine ∧
          (run set machine (Sink.limited capacity failure)).sink.accepted =
            (run set machine Sink.unlimited).sink.accepted) ∧
      (capacity < (run set machine Sink.unlimited).sink.accepted.length →
        (run set machine (Sink.limited capacity failure)).result =
            .error (.outputFailed failure) ∧
          (run set machine (Sink.limited capacity failure)).sink.accepted =
            (run set machine Sink.unlimited).sink.accepted.take capacity ∧
          ∃ printing opcode,
            FirstOverrun set capacity printing opcode
                (trail set machine Sink.unlimited) ∧
              (run set machine (Sink.limited capacity failure)).machine =
                printing.withInstruction opcode ∧
              (run set machine (Sink.limited capacity failure)).machine.state =
                .running ∧
              (run set machine
                    (Sink.limited capacity failure)).machine.counter =
                printing.counter) := by
  constructor
  · intro fits
    have same :
        run set machine (Sink.limited capacity failure) = _ :=
      run_withLimit_of_fits usesBuiltIns ⟨capacity, failure⟩ machine
        Sink.unlimited rfl fits
    rw [same]
    exact ⟨rfl, rfl, rfl⟩
  · intro beyond
    obtain ⟨printing, opcode, notices, first, running, faulted⟩ :=
      run_withLimit_of_lt usesBuiltIns ⟨capacity, failure⟩ machine
        Sink.unlimited rfl (Nat.zero_le capacity) beyond
    change run set machine (Sink.limited capacity failure) = _ at faulted
    rw [faulted]
    exact ⟨rfl, rfl, printing, opcode, first, rfl, running, rfl⟩

/-- A machine in front of code that prints 8 and then 90. -/
def beforeTwoLines : Machine :=
  { initial with
    memory := Memory.ofBytes [130, 0, 8, 71, 0, 130, 1, 90, 71, 1, 1] }

/-- Room for three bytes cuts the second line between its two digits. -/
theorem limited_run_truncates_second_line :
    InstructionSet.standard.UsesBuiltIns ∧
      (run .standard beforeTwoLines
          (Sink.limited 3 .brokenPipe)).result =
        .error (.outputFailed .brokenPipe) ∧
      (run .standard beforeTwoLines
          (Sink.limited 3 .brokenPipe)).sink.accepted =
        [56, 10, 57] ∧
      ∃ printing opcode,
        FirstOverrun .standard 3 printing opcode
            (trail .standard beforeTwoLines Sink.unlimited) ∧
          (run .standard beforeTwoLines
              (Sink.limited 3 .brokenPipe)).machine =
            printing.withInstruction opcode := by
  have longer :
      3 <
        (run .standard beforeTwoLines
          Sink.unlimited).sink.accepted.length := by
    decide +kernel
  obtain ⟨faulted, kept, printing, opcode, first, left, _⟩ :=
    (limited_run_truncates InstructionSet.usesBuiltIns_standard beforeTwoLines
      3 .brokenPipe).2 longer
  refine ⟨InstructionSet.usesBuiltIns_standard, faulted, ?_, printing, opcode,
    first, left⟩
  rw [kept]
  decide +kernel

end Machine

end EightBit
