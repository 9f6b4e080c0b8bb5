import EightBit.Machine.Procedure
import EightBit.Proofs.Machine.Trail

namespace EightBit

/-!
# Every run ends

A run of routines that leave the program counter where it is, or move it on,
ends: a step that goes on was made inside memory and ends further up, whatever
has become of the code meanwhile, and outside memory no step goes on. The built-in
routines are such, and so are all procedures.
-/

/-- A procedure leaves all of the machine alone but memory and registers. -/
theorem Procedure.routine_machine
    (procedure : Procedure)
    (machine : Machine)
    (sink : Sink) :
    (procedure.routine machine sink).machine =
      { machine with
        memory := (procedure.routine machine sink).machine.memory
        registers := (procedure.routine machine sink).machine.registers } := by
  induction procedure generalizing machine sink with
  | finish result =>
      rfl
  | locate next inductionHypothesis =>
      exact inductionHypothesis _ _ machine sink
  | read address next inductionHypothesis =>
      exact inductionHypothesis _ machine sink
  | readRegister number next inductionHypothesis =>
      exact inductionHypothesis _ machine sink
  | emit bytes next inductionHypothesis =>
      exact inductionHypothesis _ machine (sink.write bytes).2
  | write address value next inductionHypothesis =>
      simp only [routine]
      cases wrote : machine.write address value with
      | ok changed =>
          have rest := inductionHypothesis (.ok ()) changed sink
          rw [Machine.eq_of_write wrote] at rest ⊢
          exact rest
      | error fault =>
          exact inductionHypothesis (.error fault) machine sink
  | combine operation first second next inductionHypothesis =>
      simp only [routine]
      cases combined : machine.combine operation first second with
      | ok changed =>
          have rest := inductionHypothesis (.ok ()) changed sink
          rw [Machine.eq_of_combine combined] at rest ⊢
          exact rest
      | error fault =>
          exact inductionHypothesis (.error fault) machine sink

theorem Procedure.routine_counter
    (procedure : Procedure)
    (machine : Machine)
    (sink : Sink) :
    (procedure.routine machine sink).machine.counter = machine.counter := by
  rw [routine_machine]

/-- The routines whose runs end. -/
inductive Routine.Forward : Routine → Prop where
  | builtIn (builtIn : BuiltIn) :
      Forward builtIn.routine
  | procedure (procedure : Procedure) :
      Forward procedure.routine
  /-- Any routine at all that does not move the program counter back. -/
  | neverRetreats
      {routine : Routine}
      (kept :
        ∀ machine sink,
          machine.counter ≤ (routine machine sink).machine.counter) :
      Forward routine

theorem Routine.Forward.counter_le
    {routine : Routine}
    (forward : routine.Forward)
    (machine : Machine)
    (sink : Sink) :
    machine.counter ≤ (routine machine sink).machine.counter := by
  cases forward with
  | builtIn builtIn =>
      exact Nat.le_of_eq (builtIn.routine_counter machine sink).symm
  | procedure procedure =>
      exact Nat.le_of_eq (procedure.routine_counter machine sink).symm
  | neverRetreats kept =>
      exact kept machine sink

namespace Machine

/--
With routines that do not move the program counter back, every step that leaves
the machine running moves it on, every step outside memory faults with the
address where it stands, and the loop of steps ends by a halt or a fault. It
makes no more steps than there are addresses from the program counter up to 256,
and one where the machine starts halted or beyond.
-/
theorem run_ends_within_memory
    {set : InstructionSet}
    (forward :
      ∀ opcode routine,
        set.routine? opcode = some routine →
        routine.Forward) :
    (∀ machine sink state,
        (step set machine sink).result = .ok state →
        (step set machine sink).machine.state = .running →
        machine.counter + 1 ≤ (step set machine sink).machine.counter) ∧
      (∀ machine sink,
        machine.state = .running →
        256 ≤ machine.counter →
        (step set machine sink).result =
          .error (.addressOutOfRange machine.counter)) ∧
      ∀ machine sink,
        ((∃ halt, (run set machine sink).result = .ok (.halted halt)) ∨
            ∃ fault, (run set machine sink).result = .error fault) ∧
          ∃ count,
            count ≤ max 1 (257 - machine.counter) ∧
              ∀ steps outcome,
                Runs set machine sink steps outcome ↔
                  steps = count ∧ outcome = run set machine sink := by
  have neverRetreats : set.NeverRetreats := by
    intro opcode routine found machine sink
    exact (forward opcode routine found).counter_le machine sink
  refine ⟨?_, ?_, ?_⟩
  · intro machine sink state succeeded running
    have returned := state_of_result succeeded
    rw [running] at returned
    subst returned
    exact (counter_lt_of_goesOn neverRetreats succeeded).2
  · intro machine sink running beyond
    rw [step_of_counter_le running beyond]
  · intro machine sink
    obtain ⟨count, bounded, runs⟩ :=
      exists_runs_run neverRetreats machine sink
    constructor
    · have stopped := runs.result_ne_running
      cases result : (run set machine sink).result with
      | error fault =>
          exact .inr ⟨fault, rfl⟩
      | ok state =>
          cases state with
          | running =>
              exact (stopped result).elim
          | halted halt =>
              exact .inl ⟨halt, rfl⟩
    · refine ⟨count, bounded, fun steps outcome => ⟨?_, ?_⟩⟩
      · intro otherRuns
        exact otherRuns.unique runs
      · rintro ⟨rfl, rfl⟩
        exact runs

/--
Put the value of the register that the second operand names at the address that
is in the register that the first operand names.
-/
def storeIndirect : Procedure :=
  .locate fun counter _ =>
    .read (counter + 1) fun
      | .error fault => .finish (.error fault)
      | .ok first =>
          .read (counter + 2) fun
            | .error fault => .finish (.error fault)
            | .ok second =>
                .readRegister first fun
                  | .error fault => .finish (.error fault)
                  | .ok address =>
                      .readRegister second fun
                        | .error fault => .finish (.error fault)
                        | .ok value =>
                            .write address.toNat value .finish

/-- The standard set with a procedure that may rewrite code. -/
def patchingSet : InstructionSet :=
  InstructionSet.standard.install 128 storeIndirect.routine

theorem forward_patchingSet
    (opcode : UInt8)
    (routine : Routine)
    (found : patchingSet.routine? opcode = some routine) :
    routine.Forward := by
  rw [patchingSet, InstructionSet.routine?_install] at found
  split at found
  · obtain rfl := Option.some.inj found
    exact .procedure storeIndirect
  · obtain ⟨builtIn, rfl⟩ :=
      InstructionSet.usesBuiltIns_standard opcode routine found
    exact .builtIn builtIn

/-- A machine whose code will put a halt in place of an instruction that prints. -/
def selfPatching : Machine :=
  { initial with
    memory := Memory.ofBytes [130, 0, 9, 130, 1, 1, 128, 0, 1, 71, 0] }

/-- Code that rewrites itself ends its run, and what it has replaced is not run. -/
theorem run_ends_within_memory_patched :
    (∀ opcode routine,
        patchingSet.routine? opcode = some routine →
        routine.Forward) ∧
      (run patchingSet selfPatching Sink.unlimited).machine.state =
        .halted .instruction ∧
      (run patchingSet selfPatching Sink.unlimited).sink.accepted = [] ∧
      ∃ count,
        count ≤ 257 ∧
          Runs patchingSet selfPatching Sink.unlimited count
            (run patchingSet selfPatching Sink.unlimited) := by
  refine ⟨forward_patchingSet, by decide +kernel, by decide +kernel, ?_⟩
  obtain ⟨_, count, bounded, runs⟩ :=
    (run_ends_within_memory forward_patchingSet).2.2 selfPatching
      Sink.unlimited
  exact ⟨count, bounded, (runs _ _).mpr ⟨rfl, rfl⟩⟩

end Machine

end EightBit
