import EightBit.Proofs.Machine.History
import EightBit.Proofs.Machine.Locality

namespace EightBit.Machine

/-!
# Memory holds what was put there last

A cell holds the byte that the latest of the loads and writes which cover it has
given it, and zero if there is none. Loads and writes that fault do not count, and
nothing that is done besides them changes memory. The other way round, they leave
everything but memory alone.
-/

/-- The operations that put bytes into memory. -/
inductive Operation.Stores : Operation → Prop where
  | load (program : List UInt8) : Stores (.load program)
  | write (address : Nat) (value : UInt8) : Stores (.write address value)

/--
The byte that an operation has for an address, if the address is one that it
covers. A program covers the addresses below its length.
-/
def Operation.byteFor? : Operation → Nat → Option UInt8
  | .load program, address => program[address]?
  | .write target value, address =>
      if address = target then
        some value
      else
        none
  | _, _ => none

/-- The byte that an operation with this outcome has given to an address, if any. -/
def given?
    (entry : Operation × Outcome Answer)
    (address : Nat) :
    Option UInt8 :=
  match entry.2.result with
  | .ok _ => entry.1.byteFor? address
  | .error _ => none

/-- The byte that was given to an address last, if any was. -/
def lastGiven?
    (entries : List (Operation × Outcome Answer))
    (address : Nat) :
    Option UInt8 :=
  entries.reverse.findSome? fun entry => given? entry address

/-- An earlier operation counts where no later one gives the address a byte. -/
theorem lastGiven?_cons
    (entry : Operation × Outcome Answer)
    (later : List (Operation × Outcome Answer))
    (address : Nat) :
    lastGiven? (entry :: later) address =
      (lastGiven? later address).or (given? entry address) := by
  simp [lastGiven?, List.findSome?_append]

/-- How storage and execution keep out of each other's way. -/
structure StorageLaws
    (set : InstructionSet)
    (machine : Machine)
    (sink : Sink) :
    Prop where
  loads :
    ∀ program : List UInt8,
      program.length ≤ 256 →
      ((Operation.load program).perform set machine sink).result = .ok .done
  loadsTooLarge :
    ∀ program : List UInt8,
      256 < program.length →
      (Operation.load program).perform set machine sink =
        ⟨.error (.imageTooLarge program.length), machine, sink, []⟩
  writes :
    ∀ address value,
      address ≤ 255 →
      ((Operation.write address value).perform set machine sink).result =
        .ok .done
  writesOutside :
    ∀ address value,
      256 ≤ address →
      (Operation.write address value).perform set machine sink =
        ⟨.error (.addressOutOfRange address), machine, sink, []⟩
  storing :
    ∀ operation : Operation,
      operation.Stores →
      ∃ result memory,
        operation.perform set machine sink =
          ⟨result, { machine with memory := memory }, sink, []⟩
  otherwise :
    ∀ operation : Operation,
      ¬operation.Stores →
      (operation.perform set machine sink).machine.memory = machine.memory

section Perform

variable
  (set : InstructionSet)
  (machine : Machine)
  (sink : Sink)

/-- What a load leads to is decided by the length of the program. -/
theorem perform_load (program : List UInt8) :
    (Operation.load program).perform set machine sink =
      if program.length ≤ 256 then
        ⟨.ok .done,
          { machine with memory := machine.memory.overlay program }, sink, []⟩
      else
        ⟨.error (.imageTooLarge program.length), machine, sink, []⟩ := by
  simp only [Operation.perform, Routine.ofChange]
  by_cases fits : program.length ≤ 256
  · have loaded : machine.load program = .ok _ := if_pos fits
    rw [loaded, if_pos fits]
    rfl
  · have refused : machine.load program = .error _ := if_neg fits
    rw [refused, if_neg fits]
    rfl

/-- What a write leads to is decided by whether there is such a cell. -/
theorem perform_write
    (address : Nat)
    (value : UInt8) :
    (Operation.write address value).perform set machine sink =
      match machine.memory.write? address value with
      | some memory => ⟨.ok .done, { machine with memory := memory }, sink, []⟩
      | none => ⟨.error (.addressOutOfRange address), machine, sink, []⟩ := by
  simp only [Operation.perform, Routine.ofChange, Machine.write]
  cases machine.memory.write? address value <;> rfl

end Perform

section BuiltIns

variable
  {set : InstructionSet}
  (usesBuiltIns : set.UsesBuiltIns)

include usesBuiltIns

/-- Only loads and writes change memory. -/
theorem memory_perform
    {operation : Operation}
    (other : ¬operation.Stores)
    (machine : Machine)
    (sink : Sink) :
    (operation.perform set machine sink).machine.memory = machine.memory := by
  cases operation with
  | load program =>
      exact (other (.load program)).elim
  | write address value =>
      exact (other (.write address value)).elim
  | combine arithmetic first second =>
      refine
        @Routine.ofChange_preserves
          (fun other => other.memory = machine.memory) _ machine rfl
          (fun changed combined => ?_) sink
      rw [eq_of_combine combined]
  | call builtIn =>
      exact builtIn.routine_memory machine sink
  | step =>
      exact memory_step usesBuiltIns
  | run =>
      exact memory_run usesBuiltIns machine sink
  | read | readRegister | setTracing | describe =>
      rfl

/-- Behind an operation an address reads as given by it, or as before. -/
theorem read?_perform
    (operation : Operation)
    (machine : Machine)
    (sink : Sink)
    (address : Nat) :
    (operation.perform set machine sink).machine.memory.read? address =
      (given? (operation, operation.perform set machine sink) address).or
        (machine.memory.read? address) := by
  by_cases stores : operation.Stores
  · cases stores with
    | load program =>
        rw [perform_load]
        by_cases fits : program.length ≤ 256
        · rw [if_pos fits]
          have covered :
              (machine.memory.overlay program).read? address =
                (program[address]?).or (machine.memory.read? address) := by
            rw [Memory.read?_overlay fits]
            by_cases inProgram : address < program.length
            · simp [inProgram]
            · simp [inProgram]
          exact covered
        · rw [if_neg fits]
          rfl
    | write target value =>
        rw [perform_write]
        cases wrote : machine.memory.write? target value with
        | none =>
            rfl
        | some memory =>
            have covered :
                memory.read? address =
                  (if address = target then some value else none).or
                    (machine.memory.read? address) := by
              rw [Memory.read?_of_write? wrote]
              by_cases same : address = target
              · simp [same]
              · simp [same]
            exact covered
  · have nothing :
        given? (operation, operation.perform set machine sink) address =
          none := by
      cases operation with
      | load program =>
          exact (stores (.load program)).elim
      | write target value =>
          exact (stores (.write target value)).elim
      | _ =>
          unfold given?
          split <;> rfl
    rw [memory_perform usesBuiltIns stores, nothing, Option.none_or]

/-- Behind a history an address reads as given last, or as before the history. -/
theorem read?_afterHistory
    (history : History)
    (machine : Machine)
    (address : Nat) :
    (afterHistory set machine history).memory.read? address =
      (lastGiven? (record set machine history) address).or
        (machine.memory.read? address) := by
  induction history generalizing machine with
  | nil =>
      rfl
  | cons entry later inductionHypothesis =>
      obtain ⟨operation, sink⟩ := entry
      have rest :=
        inductionHypothesis (operation.perform set machine sink).machine
      rw [read?_perform usesBuiltIns, ← Option.or_assoc, ← lastGiven?_cons]
        at rest
      exact rest

theorem storageLaws
    (machine : Machine)
    (sink : Sink) :
    StorageLaws set machine sink where
  loads := by
    intro program fits
    rw [perform_load, if_pos fits]
  loadsTooLarge := by
    intro program tooLarge
    rw [perform_load, if_neg (Nat.not_le.mpr tooLarge)]
  writes := by
    intro address value inside
    rw [perform_write]
    cases wrote : machine.memory.write? address value with
    | none =>
        have outside := Memory.write?_eq_none_iff.mp wrote
        omega
    | some memory =>
        rfl
  writesOutside := by
    intro address value outside
    rw [perform_write, Memory.write?_eq_none_iff.mpr outside]
  storing := by
    intro operation stores
    cases stores with
    | load program =>
        rw [perform_load]
        split
        · exact ⟨_, _, rfl⟩
        · exact ⟨_, machine.memory, rfl⟩
    | write address value =>
        rw [perform_write]
        split
        · exact ⟨_, _, rfl⟩
        · exact ⟨_, machine.memory, rfl⟩
  otherwise := by
    intro operation other
    exact memory_perform usesBuiltIns other machine sink

end BuiltIns

/--
Let anything be done to a fresh machine with built-in routines. An address up to
255 then reads as the byte that it was given by the latest load or write that
covers it and did not fault, and as zero if there was none; an address above faults
with itself. A load of more than 256 bytes and a write behind memory fault and
change nothing, every other load and write succeeds and changes memory only, and
nothing else changes memory.
-/
theorem memory_holds_last_write
    {set : InstructionSet}
    (usesBuiltIns : set.UsesBuiltIns)
    (history : History) :
    (∀ address ≤ 255,
        (afterHistory set initial history).read address =
          .ok ((lastGiven? (record set initial history) address).getD 0)) ∧
      (∀ address,
        256 ≤ address →
        (afterHistory set initial history).read address =
          .error (.addressOutOfRange address)) ∧
      ∀ machine sink, StorageLaws set machine sink := by
  refine ⟨?_, ?_, storageLaws usesBuiltIns⟩
  · intro address inside
    have atFirst : initial.memory.read? address = some 0 := by
      rw [initial, Memory.read?_zero, if_pos (Nat.lt_succ_of_le inside)]
    rw [read_eq_ok_iff, read?_afterHistory usesBuiltIns, atFirst]
    exact Option.or_some
  · intro address outside
    exact read_eq_error_iff.mpr ⟨outside, rfl⟩

/-- A program is patched, overlaid in part, and run; what faults changes nothing. -/
def overlaid : History :=
  [(.load [130, 0, 9, 71, 0], Sink.unlimited),
    (.write 2 7, Sink.unlimited),
    (.load (List.replicate 257 5), Sink.unlimited),
    (.run, Sink.limited 1 .brokenPipe),
    (.load [1], Sink.unlimited),
    (.write 256 3, Sink.unlimited),
    (.call .halt, Sink.unlimited)]

/-- Each of the first cells holds what the last of three operations gave it. -/
theorem memory_holds_last_write_overlaid :
    InstructionSet.standard.UsesBuiltIns ∧
      (afterHistory .standard initial overlaid).read 0 = .ok 1 ∧
      (afterHistory .standard initial overlaid).read 2 = .ok 7 ∧
      (afterHistory .standard initial overlaid).read 3 = .ok 71 ∧
      (afterHistory .standard initial overlaid).read 5 = .ok 0 ∧
      (afterHistory .standard initial overlaid).read 256 =
        .error (.addressOutOfRange 256) := by
  have usesBuiltIns := InstructionSet.usesBuiltIns_standard
  obtain ⟨inside, outside, -⟩ :=
    memory_holds_last_write usesBuiltIns overlaid
  refine ⟨usesBuiltIns, ?_, ?_, ?_, ?_, outside 256 (le_refl 256)⟩
  · rw [inside 0 (by decide)]
    decide +kernel
  · rw [inside 2 (by decide)]
    decide +kernel
  · rw [inside 3 (by decide)]
    decide +kernel
  · rw [inside 5 (by decide)]
    decide +kernel

end EightBit.Machine
