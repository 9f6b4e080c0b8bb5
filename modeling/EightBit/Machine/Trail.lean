import EightBit.Machine.Run

namespace EightBit.Machine

/-!
# Trails

The trail of a run is the list of the machines, each with the sink as it was
then, from which the run attempts an instruction: the ones that succeed, and
the one that halts or faults. A machine that is halted already leaves no trail.
-/

/-- The trail of a run of at most a number of steps. -/
def trailFor :
    Nat →
    InstructionSet →
    Machine →
    Sink →
    List (Machine × Sink)
  | 0, _, _, _ => []
  | budget + 1, set, machine, sink =>
      match machine.state with
      | .halted _ => []
      | .running =>
          let outcome := step set machine sink
          (machine, sink) ::
            match outcome.result with
            | .ok .running => trailFor budget set outcome.machine outcome.sink
            | _ => []

/-- The trail of a run. -/
def trail
    (set : InstructionSet)
    (machine : Machine)
    (sink : Sink) :
    List (Machine × Sink) :=
  trailFor machine.budget set machine sink

/-- The addresses at which a run attempts an instruction, in order. -/
def visited
    (set : InstructionSet)
    (machine : Machine)
    (sink : Sink) :
    List Nat :=
  (trail set machine sink).map fun attempt => attempt.1.counter

theorem trail_of_halted
    {machine : Machine}
    {halt : Halt}
    (halted : machine.state = .halted halt)
    (set : InstructionSet)
    (sink : Sink) :
    trail set machine sink = [] := by
  unfold trail
  cases machine.budget <;> simp [trailFor, halted]

end EightBit.Machine
