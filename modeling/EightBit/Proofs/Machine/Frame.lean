import EightBit.Machine.Run

namespace EightBit

/-!
# What built-in routines leave alone

A built-in routine changes nothing of a machine but its registers and its
state, whether it faults or not. Everything else about routines that later
modules need of memory, program counter, flags and tracing follows from this
one equation. Loading a program and writing a byte change nothing but memory.
-/

namespace Machine

/-- Loading a program changes the memory only. -/
theorem eq_of_load
    {machine changed : Machine}
    {program : List UInt8}
    (loaded : machine.load program = .ok changed) :
    changed = { machine with memory := changed.memory } := by
  unfold load at loaded
  split at loaded
  · obtain rfl := Except.ok.inj loaded
    rfl
  · cases loaded

/-- Writing to memory changes the memory only. -/
theorem eq_of_write
    {machine changed : Machine}
    {address : Nat}
    {value : UInt8}
    (wrote : machine.write address value = .ok changed) :
    changed = { machine with memory := changed.memory } := by
  unfold write at wrote
  split at wrote
  · obtain rfl := Except.ok.inj wrote
    rfl
  · cases wrote

/-- Writing a register changes the registers only. -/
theorem eq_of_writeRegister
    {machine changed : Machine}
    {number value : UInt8}
    (wrote : machine.writeRegister number value = .ok changed) :
    changed = { machine with registers := changed.registers } := by
  unfold writeRegister at wrote
  split at wrote
  · obtain rfl := Except.ok.inj wrote
    rfl
  · cases wrote

theorem eq_of_loadImmediate
    {machine changed : Machine}
    (loaded : machine.loadImmediate = .ok changed) :
    changed = { machine with registers := changed.registers } := by
  unfold loadImmediate at loaded
  split at loaded
  · cases loaded
  · split at loaded
    · cases loaded
    · exact eq_of_writeRegister loaded

theorem eq_of_combine
    {machine changed : Machine}
    {operation : Arithmetic}
    {first second : UInt8}
    (combined : machine.combine operation first second = .ok changed) :
    changed = { machine with registers := changed.registers } := by
  unfold combine at combined
  split at combined
  · cases combined
  · split at combined
    · cases combined
    · exact eq_of_writeRegister combined

theorem eq_of_calculate
    {machine changed : Machine}
    (calculated : machine.calculate = .ok changed) :
    changed = { machine with registers := changed.registers } := by
  unfold calculate at calculated
  split at calculated
  · cases calculated
  · split at calculated
    · cases calculated
    · split at calculated
      · cases calculated
      · exact eq_of_combine calculated

end Machine

/-- A change of registers and state alone, made into a routine, is one still. -/
theorem Routine.ofChange_machine
    {change : Machine → Except Fault Machine}
    {machine : Machine}
    (narrow :
      ∀ changed,
        change machine = .ok changed →
        changed =
          { machine with
            registers := changed.registers
            state := changed.state })
    (sink : Sink) :
    (Routine.ofChange change machine sink).machine =
      { machine with
        registers := (Routine.ofChange change machine sink).machine.registers
        state := (Routine.ofChange change machine sink).machine.state } := by
  unfold Routine.ofChange
  cases made : change machine with
  | ok changed =>
      exact narrow changed made
  | error fault =>
      rfl

namespace BuiltIn

/-- Nothing but registers and state changes when a built-in routine runs. -/
theorem routine_machine
    (builtIn : BuiltIn)
    (machine : Machine)
    (sink : Sink) :
    (builtIn.routine machine sink).machine =
      { machine with
        registers := (builtIn.routine machine sink).machine.registers
        state := (builtIn.routine machine sink).machine.state } := by
  cases builtIn with
  | halt =>
      rfl
  | loadImmediate =>
      refine Routine.ofChange_machine ?_ sink
      intro changed loaded
      rw [Machine.eq_of_loadImmediate loaded]
  | printRegister =>
      simp only [routine, Routine.printRegister]
      split
      · rfl
      · split <;> rfl
  | calculate =>
      refine Routine.ofChange_machine ?_ sink
      intro changed calculated
      rw [Machine.eq_of_calculate calculated]

@[simp] theorem routine_memory
    (builtIn : BuiltIn)
    (machine : Machine)
    (sink : Sink) :
    (builtIn.routine machine sink).machine.memory = machine.memory := by
  rw [routine_machine]

@[simp] theorem routine_counter
    (builtIn : BuiltIn)
    (machine : Machine)
    (sink : Sink) :
    (builtIn.routine machine sink).machine.counter = machine.counter := by
  rw [routine_machine]

end BuiltIn

end EightBit
