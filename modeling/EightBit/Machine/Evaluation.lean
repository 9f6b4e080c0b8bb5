import EightBit.Machine.InstructionSet

namespace EightBit

/-!
# Evaluation of a program

Built-in routines never change memory and move the program counter only
forward, so what a program does can be computed on fixed memory: `evaluate`
walks up the addresses with nothing but the registers changing, and says how
the program ends, where, and what it has written. It takes an instruction byte
apart by division and combines registers as numbers.
-/

/-- What a program leads to. -/
structure Evaluation where
  result : Except Fault Halt
  counter : Nat
  /-- The instruction byte fetched last. -/
  instruction : UInt8
  registers : Registers
  output : List UInt8

namespace Evaluation

/-- The byte at an address of fixed memory. -/
def byteAt
    (memory : Memory)
    (address : Nat) :
    Except Fault UInt8 :=
  match memory.read? address with
  | some value => .ok value
  | none => .error (.addressOutOfRange address)

/-- The value of a register. -/
def valueOf
    (registers : Registers)
    (number : UInt8) :
    Except Fault UInt8 :=
  match registers.read? number with
  | some value => .ok value
  | none => .error (.registerOutOfRange number)

/-- The registers with one value replaced. -/
def replace
    (registers : Registers)
    (number value : UInt8) :
    Except Fault Registers :=
  match registers.write? number value with
  | some replaced => .ok replaced
  | none => .error (.registerOutOfRange number)

/-- Number of bytes from an instruction to the next one. -/
def stride (instruction : UInt8) : Nat :=
  instruction.toNat / 64 + 1

/-- What an instruction byte, if it is marked, does with two numbers. -/
def operation (instruction : UInt8) : Except Fault (Nat → Nat → Nat) :=
  match instruction.toNat / 32 % 2, instruction.toNat % 16 with
  | 1, 0 => .ok fun first second => (first + second) % 256
  | 1, 2 => .ok fun first second => first * second % 256
  | _, _ => .error (.unsupportedOperation instruction)

/-- A number in decimal, on a line of its own. -/
def decimalLine (value : UInt8) : List UInt8 :=
  Text.encode (toString value.toNat ++ "\n")

/--
The registers after an instruction at an address, and the output it writes. The
first of its checks that fails is the fault.
-/
def effect
    (memory : Memory)
    (address : Nat)
    (instruction : UInt8)
    (registers : Registers) :
    BuiltIn →
    Except Fault (Registers × List UInt8)
  | .halt =>
      .ok (registers, [])
  | .loadImmediate => do
      let register ← byteAt memory (address + 1)
      let value ← byteAt memory (address + 2)
      let replaced ← replace registers register value
      .ok (replaced, [])
  | .printRegister => do
      let register ← byteAt memory (address + 1)
      let value ← valueOf registers register
      .ok (registers, decimalLine value)
  | .calculate => do
      let combine ← operation instruction
      let first ← byteAt memory (address + 1)
      let second ← byteAt memory (address + 2)
      let firstValue ← valueOf registers first
      let secondValue ← valueOf registers second
      let replaced ←
        replace registers first
          (UInt8.ofNat (combine firstValue.toNat secondValue.toNat))
      .ok (replaced, [])

/--
What a program in fixed memory leads to from an address on, where opcodes are
assigned to built-in routines. The byte fetched before is the one fetched last
if there is none to fetch.
-/
def evaluate
    (assignment : UInt8 → Option BuiltIn)
    (memory : Memory)
    (address : Nat)
    (previous : UInt8)
    (registers : Registers) :
    Evaluation :=
  if address < 256 then
    let instruction := memory.cell address
    let next := address + stride instruction
    match assignment instruction with
    | none =>
        { result := .ok (.unknownOpcode instruction address)
          counter := address
          instruction := instruction
          registers := registers
          output := [] }
    | some .halt =>
        { result := .ok .instruction
          counter := next
          instruction := instruction
          registers := registers
          output := [] }
    | some builtIn =>
        match effect memory address instruction registers builtIn with
        | .error fault =>
            { result := .error fault
              counter := address
              instruction := instruction
              registers := registers
              output := [] }
        | .ok (changed, output) =>
            let rest := evaluate assignment memory next instruction changed
            { rest with output := output ++ rest.output }
  else
    { result := .error (.addressOutOfRange address)
      counter := address
      instruction := previous
      registers := registers
      output := [] }
termination_by 256 - address
decreasing_by
  simp only [stride]
  omega

/-- What a program leads to when it is started in otherwise zero memory. -/
def ofProgram
    (assignment : UInt8 → Option BuiltIn)
    (program : List UInt8) :
    Evaluation :=
  evaluate assignment (Memory.ofBytes program) 0 0 Registers.initial

/-- The state in which a machine is left behind. -/
def state (evaluation : Evaluation) : State :=
  match evaluation.result with
  | .ok halt => .halted halt
  | .error _ => .running

/-- What the operator is told of an evaluation. -/
def notices (evaluation : Evaluation) : List Notice :=
  match evaluation.result with
  | .ok (.unknownOpcode opcode address) => [.unknownInstruction opcode address]
  | _ => []

/-- What running a machine on a sink leads to, if its run is as evaluated. -/
def outcome
    (evaluation : Evaluation)
    (machine : Machine)
    (sink : Sink) :
    Outcome State where
  result := evaluation.result.map State.halted
  machine :=
    { machine with
      registers := evaluation.registers
      counter := evaluation.counter
      instruction := evaluation.instruction
      state := evaluation.state }
  sink := { sink with accepted := sink.accepted ++ evaluation.output }
  notices := evaluation.notices

end Evaluation

/-- A set implements an assignment of opcodes to built-in routines. -/
def InstructionSet.Implements
    (set : InstructionSet)
    (assignment : UInt8 → Option BuiltIn) :
    Prop :=
  ∀ opcode,
    set.routine? opcode = (assignment opcode).map BuiltIn.routine

/-- The sets from which others are built by installing routines. -/
inductive InstructionSet.Foundation where
  | empty
  | standard
  deriving Repr, DecidableEq

namespace InstructionSet.Foundation

/-- The set to which routines are added. -/
def set : Foundation → InstructionSet
  | .empty => InstructionSet.empty
  | .standard => InstructionSet.standard

/-- The built-in routines that are there before any is added. -/
def assignment : Foundation → UInt8 → Option BuiltIn
  | .empty, _ => none
  | .standard, 1 => some .halt
  | .standard, 130 => some .loadImmediate
  | .standard, 71 => some .printRegister
  | .standard, 162 => some .calculate
  | .standard, _ => none

end InstructionSet.Foundation

end EightBit
