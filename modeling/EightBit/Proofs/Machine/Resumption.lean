import EightBit.Proofs.Machine.Atomicity
import EightBit.Proofs.Machine.Tracing

namespace EightBit

/-!
# Stepping and running may be mixed

The owner of a machine may step it or run it, any number of times and in any
order, and may ignore the faults. A run behind all this leads to what a single run
would have led to: a call that does not end the run has made the first of its
steps, and one that does can be repeated without any effect. A machine that does
not trace tells no more for it either.
-/

/-- What the owner of a machine may have it do. -/
inductive Call where
  | step
  | run
  deriving Repr, DecidableEq

/-- What a call leads to. -/
def Call.perform :
    Call →
    InstructionSet →
    Machine →
    Sink →
    Outcome State
  | .step => Machine.step
  | .run => Machine.run

namespace Machine

/--
What a run leads to behind calls, each made of what the one before it has left
behind, whether that one has faulted or not. Told is what all of them have told.
-/
def runBehind (set : InstructionSet) :
    List Call →
    Machine →
    Sink →
    Outcome State
  | [], machine, sink => run set machine sink
  | call :: later, machine, sink =>
      let outcome := call.perform set machine sink
      (runBehind set later outcome.machine outcome.sink).after outcome.notices

/-- What a run that ends so has to tell of its end. -/
def announcement : Except Fault State → List Notice
  | .ok (.halted (.unknownOpcode opcode address)) =>
      [.unknownInstruction opcode address]
  | _ => []

/-- Two outcomes differ in what has been told, at most. -/
structure EndsTheSame (first second : Outcome State) : Prop where
  result : second.result = first.result
  machine : second.machine = first.machine
  sink : second.sink = first.sink

theorem EndsTheSame.trans
    {first second third : Outcome State}
    (before : EndsTheSame first second)
    (behind : EndsTheSame second third) :
    EndsTheSame first third where
  result := behind.result.trans before.result
  machine := behind.machine.trans before.machine
  sink := behind.sink.trans before.sink

/--
A run behind an outcome leads to what a run in its place leads to; and if the
machine does not trace, the two tell together what the one tells.
-/
structure Resumes
    (set : InstructionSet)
    (machine : Machine)
    (sink : Sink)
    (outcome : Outcome State) :
    Prop where
  same :
    EndsTheSame (run set machine sink) (run set outcome.machine outcome.sink)
  tracing : outcome.machine.tracing = machine.tracing
  told :
    machine.tracing = false →
    (run set outcome.machine outcome.sink).after outcome.notices =
      run set machine sink

section Calls

variable
  {set : InstructionSet}
  (usesBuiltIns : set.UsesBuiltIns)

include usesBuiltIns

/-- Of a step that faults nothing is told but the trace line. -/
theorem notices_of_faulted
    {machine : Machine}
    {sink : Sink}
    {fault : Fault}
    (faulted : (step set machine sink).result = .error fault) :
    (step set machine sink).notices = machine.traceNotices := by
  have steps := builtInSteps_step usesBuiltIns machine sink
  generalize step set machine sink = outcome at faulted steps ⊢
  cases steps with
  | outside | refused | cutOff =>
      rfl
  | halted | unknown | performed =>
      cases faulted

/-- Behind a step that ends a run, another run ends where it starts. -/
theorem run_behind_stop
    {machine : Machine}
    {sink : Sink}
    (stops : (step set machine sink).result ≠ .ok .running) :
    ∃ notices,
      run set (step set machine sink).machine (step set machine sink).sink =
          { step set machine sink with notices := notices } ∧
        (machine.tracing = false → notices = []) := by
  have neverRetreats := usesBuiltIns.neverRetreats
  -- A fault is met again by the same step; behind a halt a step does nothing.
  cases result : (step set machine sink).result with
  | error fault =>
      have again :
          step set (step set machine sink).machine
              (step set machine sink).sink =
            step set machine sink :=
        step_of_faulted usesBuiltIns rfl result
      refine ⟨(step set machine sink).notices, ?_, fun silent => ?_⟩
      · rw [run_of_stops neverRetreats (by rwa [again]), again]
      · rw [notices_of_faulted usesBuiltIns result,
          traceNotices_of_silent silent]
  | ok state =>
      cases state with
      | running =>
          exact (stops result).elim
      | halted halt =>
          have again :=
            step_of_halted (state_of_result result) set
              (step set machine sink).sink
          refine ⟨[], ?_, fun _ => rfl⟩
          rw [run_of_stops neverRetreats (by simp [again]), again, ← result]

/-- A step that goes on is part of the run, and another can be made once more. -/
theorem resumes_step
    (machine : Machine)
    (sink : Sink) :
    Resumes set machine sink (step set machine sink) := by
  have neverRetreats := usesBuiltIns.neverRetreats
  by_cases goesOn : (step set machine sink).result = .ok .running
  · have ran := run_of_goesOn neverRetreats goesOn
    refine ⟨?_, tracing_step usesBuiltIns, fun _ => ran.symm⟩
    rw [ran]
    exact ⟨rfl, rfl, rfl⟩
  · have ran := run_of_stops neverRetreats goesOn
    obtain ⟨notices, again, quiet⟩ := run_behind_stop usesBuiltIns goesOn
    refine ⟨?_, tracing_step usesBuiltIns, fun silent => ?_⟩
    · rw [ran, again]
      exact ⟨rfl, rfl, rfl⟩
    · rw [ran, again]
      simp [Outcome.after, quiet silent]

/-- A run can be made once more. -/
theorem resumes_run
    (machine : Machine)
    (sink : Sink) :
    Resumes set machine sink (run set machine sink) := by
  have neverRetreats := usesBuiltIns.neverRetreats
  induction machine, sink using run_induction neverRetreats with
  | stop machine sink stops =>
      have stepped := resumes_step usesBuiltIns machine sink
      rwa [← run_of_stops neverRetreats stops] at stepped
  | next machine sink goesOn inductionHypothesis =>
      have kept := (resumes_step usesBuiltIns machine sink).tracing
      obtain ⟨same, tracing, told⟩ := inductionHypothesis
      have ran := run_of_goesOn neverRetreats goesOn
      refine ⟨?_, tracing_run usesBuiltIns machine sink, fun silent => ?_⟩
      · rw [ran]
        exact ⟨same.result, same.machine, same.sink⟩
      · rw [ran, Outcome.after_machine, Outcome.after_sink,
          Outcome.after_notices, ← Outcome.after_after,
          told (kept.trans silent)]

theorem resumes_perform
    (call : Call)
    (machine : Machine)
    (sink : Sink) :
    Resumes set machine sink (call.perform set machine sink) := by
  cases call with
  | step =>
      exact resumes_step usesBuiltIns machine sink
  | run =>
      exact resumes_run usesBuiltIns machine sink

/-- Whatever the calls, a run behind them leads to what a run alone leads to. -/
theorem endsTheSame_runBehind
    (calls : List Call)
    (machine : Machine)
    (sink : Sink) :
    EndsTheSame (run set machine sink) (runBehind set calls machine sink) := by
  induction calls generalizing machine sink with
  | nil =>
      exact ⟨rfl, rfl, rfl⟩
  | cons call later inductionHypothesis =>
      have resumes := resumes_perform usesBuiltIns call machine sink
      obtain ⟨result, reached, written⟩ :=
        resumes.same.trans (inductionHypothesis _ _)
      exact ⟨result, reached, written⟩

/-- Calls of a machine that does not trace, and a run, tell what the run does. -/
theorem runBehind_of_silent
    (calls : List Call)
    (machine : Machine)
    (sink : Sink)
    (silent : machine.tracing = false) :
    runBehind set calls machine sink = run set machine sink := by
  induction calls generalizing machine sink with
  | nil =>
      rfl
  | cons call later inductionHypothesis =>
      have resumes := resumes_perform usesBuiltIns call machine sink
      rw [runBehind, inductionHypothesis _ _ (resumes.tracing.trans silent),
        resumes.told silent]

/-- A machine that does not trace tells of its end only. -/
theorem notices_run_of_silent
    (machine : Machine)
    (sink : Sink)
    (running : machine.state = .running)
    (silent : machine.tracing = false) :
    (run set machine sink).notices =
      announcement (run set machine sink).result := by
  have neverRetreats := usesBuiltIns.neverRetreats
  have quiet := traceNotices_of_silent silent
  induction machine, sink using run_induction neverRetreats with
  | stop machine sink stops =>
      rw [run_of_stops neverRetreats stops]
      have steps := builtInSteps_step usesBuiltIns machine sink
      generalize step set machine sink = outcome at stops steps ⊢
      cases steps with
      | halted stopped =>
          rw [running] at stopped
          cases stopped
      | outside | refused | cutOff =>
          exact quiet
      | unknown =>
          rw [quiet]
          rfl
      | @performed opcode builtIn =>
          rw [quiet]
          cases builtIn with
          | halt =>
              rfl
          | loadImmediate | printRegister | calculate =>
              exact (stops (congrArg Except.ok running)).elim
  | next machine sink goesOn inductionHypothesis =>
      have told := notices_of_goesOn usesBuiltIns goesOn
      have stillSilent :=
        (resumes_step usesBuiltIns machine sink).tracing.trans silent
      rw [run_of_goesOn neverRetreats goesOn, Outcome.after_notices, told,
        quiet]
      exact
        inductionHypothesis (state_of_result goesOn) stillSilent
          (traceNotices_of_silent stillSilent)

end Calls

/--
Have a machine with built-in routines make any steps and runs, in any order,
whatever they return, and then a run. That returns the halt or the fault of a
single run, leaves the same machine and has written the same bytes in all. If the
machine does not trace, no more has been told in all, either: an instruction that
no routine implements is announced once if the run was ended by it.
-/
theorem run_behind_calls_eq_run
    {set : InstructionSet}
    (usesBuiltIns : set.UsesBuiltIns)
    (machine : Machine)
    (sink : Sink)
    (calls : List Call) :
    (runBehind set calls machine sink).result =
        (run set machine sink).result ∧
      (runBehind set calls machine sink).machine =
        (run set machine sink).machine ∧
      (runBehind set calls machine sink).sink = (run set machine sink).sink ∧
      (machine.tracing = false →
        (runBehind set calls machine sink).notices =
            (run set machine sink).notices ∧
          (machine.state = .running →
            (runBehind set calls machine sink).notices =
              announcement (run set machine sink).result)) := by
  obtain ⟨result, reached, written⟩ :=
    endsTheSame_runBehind usesBuiltIns calls machine sink
  refine ⟨result, reached, written, fun silent => ?_⟩
  rw [runBehind_of_silent usesBuiltIns calls machine sink silent]
  refine ⟨rfl, fun running => ?_⟩
  exact notices_run_of_silent usesBuiltIns machine sink running silent

/--
A machine that prints 244 and then finds a zero: stepped past its end, run, and
stepped again, it has printed once and has announced its end once.
-/
theorem run_behind_calls_eq_run_printing :
    InstructionSet.standard.UsesBuiltIns ∧
      (runBehind .standard [.step, .step, .step, .run, .step] beforePrinting
          Sink.unlimited).result =
        .ok (.halted (.unknownOpcode 0 2)) ∧
      (runBehind .standard [.step, .step, .step, .run, .step] beforePrinting
          Sink.unlimited).sink.accepted =
        [50, 52, 52, 10] ∧
      (runBehind .standard [.step, .step, .step, .run, .step] beforePrinting
          Sink.unlimited).notices =
        [.unknownInstruction 0 2] := by
  obtain ⟨sameResult, _, sameSink, told⟩ :=
    run_behind_calls_eq_run InstructionSet.usesBuiltIns_standard beforePrinting
      Sink.unlimited [.step, .step, .step, .run, .step]
  have result :
      (run .standard beforePrinting Sink.unlimited).result =
        .ok (.halted (.unknownOpcode 0 2)) := by
    decide +kernel
  refine ⟨InstructionSet.usesBuiltIns_standard, sameResult.trans result, ?_, ?_⟩
  · rw [sameSink]
    decide +kernel
  · rw [(told rfl).2 rfl, result]
    rfl

end Machine

end EightBit
