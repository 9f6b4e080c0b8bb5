import EightBit.Arithmetic
import EightBit.Machine.Snapshot

namespace EightBit

/-!
# The machine

A machine holds memory, registers, the program counter, flags, the instruction
byte fetched last, whether it is running or why it halted, and whether it
reports each instruction. The accessors fault where there is no such cell or
register; an accessor that faults has changed nothing.
-/

/-- Why a machine stopped of its own accord. -/
inductive Halt where
  | instruction
  | unknownOpcode (opcode : UInt8) (address : Nat)
  deriving Repr, DecidableEq

/-- Whether a machine goes on executing. -/
inductive State where
  | running
  | halted (halt : Halt)
  deriving Repr, DecidableEq

/-- The whole state of a machine. -/
structure Machine where
  memory : Memory
  registers : Registers
  /-- Address of the instruction to execute next. -/
  counter : Nat
  /-- Kept for comparisons; no instruction sets it. -/
  flags : UInt8
  /-- The instruction byte fetched last. -/
  instruction : UInt8
  state : State
  /-- Whether every instruction is reported before it is executed. -/
  tracing : Bool
  deriving Repr, DecidableEq

namespace Machine

/-- A machine that has executed nothing, with all memory zero. -/
def initial : Machine where
  memory := Memory.zero
  registers := Registers.initial
  counter := 0
  flags := 0
  instruction := 0
  state := .running
  tracing := false

/-- The byte at an address. -/
def read
    (machine : Machine)
    (address : Nat) :
    Except Fault UInt8 :=
  match machine.memory.read? address with
  | some value => .ok value
  | none => .error (.addressOutOfRange address)

/-- Put a byte at an address. -/
def write
    (machine : Machine)
    (address : Nat)
    (value : UInt8) :
    Except Fault Machine :=
  match machine.memory.write? address value with
  | some memory => .ok { machine with memory := memory }
  | none => .error (.addressOutOfRange address)

/-- The value of a register. -/
def readRegister
    (machine : Machine)
    (number : UInt8) :
    Except Fault UInt8 :=
  match machine.registers.read? number with
  | some value => .ok value
  | none => .error (.registerOutOfRange number)

/-- Put a value into a register. -/
def writeRegister
    (machine : Machine)
    (number value : UInt8) :
    Except Fault Machine :=
  match machine.registers.write? number value with
  | some registers => .ok { machine with registers := registers }
  | none => .error (.registerOutOfRange number)

/-- Copy a program to the start of memory; memory behind it stays as it was. -/
def load
    (machine : Machine)
    (program : List UInt8) :
    Except Fault Machine :=
  if program.length ≤ Memory.size then
    .ok { machine with memory := machine.memory.overlay program }
  else
    .error (.imageTooLarge program.length)

/-- Turn the report of every instruction on or off. -/
def setTracing
    (machine : Machine)
    (tracing : Bool) :
    Machine :=
  { machine with tracing := tracing }

/-- The operand of a number, counted from one behind the instruction byte. -/
def operand
    (machine : Machine)
    (number : Nat) :
    Except Fault UInt8 :=
  machine.read (machine.counter + number)

/-- Apply an operation to two registers and keep the result in the first. -/
def combine
    (machine : Machine)
    (operation : Arithmetic)
    (first second : UInt8) :
    Except Fault Machine :=
  match machine.readRegister first with
  | .error fault => .error fault
  | .ok firstValue =>
      match machine.readRegister second with
      | .error fault => .error fault
      | .ok secondValue =>
          machine.writeRegister first (operation.apply firstValue secondValue)

/-- The machine that has fetched an instruction byte. -/
def withInstruction
    (machine : Machine)
    (instruction : UInt8) :
    Machine :=
  { machine with instruction := instruction }

/-- Move the program counter behind the instruction fetched last. -/
def advance (machine : Machine) : Machine :=
  { machine with
    counter := machine.counter + Instruction.length machine.instruction }

/-- What a trace line shows of the machine. -/
def snapshot (machine : Machine) : Snapshot where
  address := machine.counter
  window := Vector.ofFn fun offset =>
    machine.memory.cell (machine.counter + offset.val)
  registers := machine.registers

section WithInstruction

variable (machine : Machine) (instruction : UInt8)

@[simp] theorem withInstruction_memory :
    (machine.withInstruction instruction).memory = machine.memory :=
  rfl

@[simp] theorem withInstruction_registers :
    (machine.withInstruction instruction).registers = machine.registers :=
  rfl

@[simp] theorem withInstruction_counter :
    (machine.withInstruction instruction).counter = machine.counter :=
  rfl

@[simp] theorem withInstruction_flags :
    (machine.withInstruction instruction).flags = machine.flags :=
  rfl

@[simp] theorem withInstruction_instruction :
    (machine.withInstruction instruction).instruction = instruction :=
  rfl

@[simp] theorem withInstruction_state :
    (machine.withInstruction instruction).state = machine.state :=
  rfl

@[simp] theorem withInstruction_tracing :
    (machine.withInstruction instruction).tracing = machine.tracing :=
  rfl

end WithInstruction

/-- Reading faults exactly behind the end of memory, and names the address. -/
theorem read_eq_error_iff
    {machine : Machine}
    {address : Nat}
    {fault : Fault} :
    machine.read address = .error fault ↔
      256 ≤ address ∧ fault = .addressOutOfRange address := by
  unfold read
  cases present : machine.memory.read? address with
  | some value =>
      have inside : ¬256 ≤ address := fun outside =>
        Option.some_ne_none value
          (present.symm.trans (Memory.read?_eq_none_iff.mpr outside))
      simp [inside]
  | none =>
      simp [Memory.read?_eq_none_iff.mp present, eq_comm]

theorem read_eq_ok_iff
    {machine : Machine}
    {address : Nat}
    {value : UInt8} :
    machine.read address = .ok value ↔
      machine.memory.read? address = some value := by
  unfold read
  split <;> simp_all

end Machine

end EightBit
