import EightBit.Proofs.Machine.Effect
import EightBit.Proofs.Machine.Loop
import Mathlib.Data.List.Induction

namespace EightBit

/-!
# What a whole run leads to

A run of a machine with built-in routines, on a sink that accepts everything,
is what the evaluator computes. The machine and the evaluator are tied together
at one place: a step either ends the run as the evaluation says, or reaches a
machine whose evaluation is the rest of the evaluation. The memory is the same
all along and the program counter is the evaluator's address.
-/

namespace Evaluation

section Simulation

variable
  {set : InstructionSet}
  {assignment : UInt8 → Option BuiltIn}
  (implements : set.Implements assignment)

include implements

/-- The routine of an opcode is the built-in one that it is assigned to. -/
theorem exists_assigned
    {opcode : UInt8}
    {routine : Routine}
    (found : set.routine? opcode = some routine) :
    ∃ builtIn, assignment opcode = some builtIn ∧ routine = builtIn.routine := by
  rw [implements opcode] at found
  obtain ⟨builtIn, assigned, rfl⟩ := Option.map_eq_some_iff.mp found
  exact ⟨builtIn, assigned, rfl⟩

end Simulation

end Evaluation

namespace InstructionSet.Foundation

end InstructionSet.Foundation

/-- An assignment is implemented by built-in routines only. -/
theorem InstructionSet.Implements.usesBuiltIns
    {set : InstructionSet}
    {assignment : UInt8 → Option BuiltIn}
    (implements : set.Implements assignment) :
    set.UsesBuiltIns := by
  intro opcode routine found
  obtain ⟨builtIn, _, same⟩ := Evaluation.exists_assigned implements found
  exact ⟨builtIn, same⟩

end EightBit
