import EightBit.Machine.Operation
import EightBit.Proofs.Machine.BuiltInStep
import EightBit.Proofs.Machine.Trail

namespace EightBit

/-!
# What operations leave alone

Only three operations bear on the course of a machine, which is where it stands
and whether it goes on: a step, a run, and a direct call of the routine that
halts. All others leave the course as it is, whether they fault or not. What every
operation of a history preserves holds behind the history.
-/

/-- A routine that changes the machine keeps what the change keeps. -/
theorem Routine.ofChange_preserves
    {property : Machine → Prop}
    {change : Machine → Except Fault Machine}
    {machine : Machine}
    (holds : property machine)
    (preserved :
      ∀ changed, change machine = .ok changed → property changed)
    (sink : Sink) :
    property (Routine.ofChange change machine sink).machine := by
  unfold Routine.ofChange
  cases made : change machine with
  | ok changed =>
      exact preserved changed made
  | error fault =>
      exact holds

/-- Only the routine that halts changes the state of a machine. -/
theorem BuiltIn.routine_state
    {builtIn : BuiltIn}
    (goesOn : builtIn ≠ .halt)
    (machine : Machine)
    (sink : Sink) :
    (builtIn.routine machine sink).machine.state = machine.state := by
  rw [Evaluation.routine_eq_attempted]
  unfold Evaluation.attempted
  split
  · rfl
  · split
    · rfl
    · exact BuiltIn.stateAfter_of_ne_halt goesOn machine.state

namespace Machine

/-- The other machine stands where the one does, and goes on as it does. -/
structure SameCourse (machine other : Machine) : Prop where
  counter : other.counter = machine.counter
  flags : other.flags = machine.flags
  instruction : other.instruction = machine.instruction
  state : other.state = machine.state

/-- The operations that execute instructions or stop a machine. -/
inductive Operation.Executes : Operation → Prop where
  | step : Executes .step
  | run : Executes .run
  | halt : Executes (.call .halt)

/-- An operation that executes nothing leaves the course of a machine alone. -/
theorem sameCourse_perform
    {operation : Operation}
    (inert : ¬operation.Executes)
    (set : InstructionSet)
    (machine : Machine)
    (sink : Sink) :
    SameCourse machine (operation.perform set machine sink).machine := by
  have itself : SameCourse machine machine := ⟨rfl, rfl, rfl, rfl⟩
  cases operation with
  | load program =>
      refine Routine.ofChange_preserves itself (fun changed loaded => ?_) sink
      rw [eq_of_load loaded]
      exact ⟨rfl, rfl, rfl, rfl⟩
  | write address value =>
      refine Routine.ofChange_preserves itself (fun changed wrote => ?_) sink
      rw [eq_of_write wrote]
      exact ⟨rfl, rfl, rfl, rfl⟩
  | combine arithmetic first second =>
      refine Routine.ofChange_preserves itself (fun changed combined => ?_) sink
      rw [eq_of_combine combined]
      exact ⟨rfl, rfl, rfl, rfl⟩
  | setTracing tracing =>
      exact ⟨rfl, rfl, rfl, rfl⟩
  | read | readRegister | describe =>
      exact itself
  | call builtIn =>
      have goesOn : builtIn ≠ .halt := by
        rintro rfl
        exact inert .halt
      simp only [Operation.perform, Outcome.map_machine]
      refine ⟨?_, ?_, ?_, BuiltIn.routine_state goesOn machine sink⟩
      all_goals rw [BuiltIn.routine_machine]
  | step =>
      exact (inert .step).elim
  | run =>
      exact (inert .run).elim

/--
A property of the course of a machine that is kept by steps, and by stopping the
machine, is kept by every operation.
-/
@[elab_as_elim]
theorem perform_preserves
    {set : InstructionSet}
    (neverRetreats : set.NeverRetreats)
    {property : Machine → Prop}
    (ofCourse :
      ∀ machine other,
        SameCourse machine other →
        property machine →
        property other)
    (stopped : ∀ machine, property machine → property machine.halt)
    (stepped :
      ∀ machine sink,
        property machine →
        property (step set machine sink).machine)
    {machine : Machine}
    (holds : property machine)
    (operation : Operation)
    (sink : Sink) :
    property (operation.perform set machine sink).machine := by
  by_cases executes : operation.Executes
  · cases executes with
    | step =>
        exact stepped machine sink holds
    | run =>
        exact run_preserves neverRetreats stepped holds
    | halt =>
        exact stopped machine holds
  · exact
      ofCourse machine _ (sameCourse_perform executes set machine sink) holds

/-- What every operation of a history preserves holds behind the history. -/
@[elab_as_elim]
theorem afterHistory_preserves
    {set : InstructionSet}
    {property : Machine → Prop}
    {history : History}
    (preserved :
      ∀ entry ∈ history,
      ∀ machine,
        property machine →
        property (entry.1.perform set machine entry.2).machine)
    {machine : Machine}
    (holds : property machine) :
    property (afterHistory set machine history) := by
  induction history generalizing machine with
  | nil =>
      exact holds
  | cons entry later inductionHypothesis =>
      refine
        inductionHypothesis
          (fun other member => preserved other (List.mem_cons_of_mem _ member))
          ?_
      exact preserved entry List.mem_cons_self machine holds

/-- What steps and stopping keep of the course of a machine, histories keep. -/
@[elab_as_elim]
theorem afterHistory_preserves_course
    {set : InstructionSet}
    (neverRetreats : set.NeverRetreats)
    {property : Machine → Prop}
    (ofCourse :
      ∀ machine other,
        SameCourse machine other →
        property machine →
        property other)
    (stopped : ∀ machine, property machine → property machine.halt)
    (stepped :
      ∀ machine sink,
        property machine →
        property (step set machine sink).machine)
    {machine : Machine}
    (holds : property machine)
    (history : History) :
    property (afterHistory set machine history) := by
  refine afterHistory_preserves ?_ holds
  intro entry _ current before
  exact
    perform_preserves neverRetreats ofCourse stopped stepped before entry.1
      entry.2

end Machine

end EightBit
