import EightBit.Proofs.Machine.Locality
import Mathlib.Data.List.Basic

namespace EightBit

/-!
# The lines that a program prints

Program output is made of whole lines: each attempt of a run at the printing
instruction that finds its register writes the value of the register in decimal on
a line of its own, and nothing else writes anything.
-/

namespace Evaluation

/-- The line of a value, read as text. -/
theorem asciiText_decimalLine (value : UInt8) :
    Text.asciiText (decimalLine value) = toString value.toNat ++ "\n" := by
  rw [← outputLine_eq_decimalLine, outputLine,
    Text.asciiText_asciiBytes fun _ => Numeral.toNat_lt_of_mem_line,
    String.ofList_append, Numeral.ofList_write_ten]

theorem asciiText_flatMap_decimalLine (values : List UInt8) :
    Text.asciiText (values.flatMap decimalLine) =
      String.join (values.map fun value => toString value.toNat ++ "\n") := by
  induction values with
  | nil =>
      rfl
  | cons value rest inductionHypothesis =>
      rw [List.flatMap_cons, Text.asciiText_append, asciiText_decimalLine,
        inductionHypothesis, List.map_cons, String.join_cons]

end Evaluation

namespace Machine

/-- The value that the instruction in front of a machine prints, if it prints one. -/
def valueToPrint? (machine : Machine) : Option UInt8 :=
  if machine.memory.read? machine.counter = some Instruction.printRegister then
    (machine.memory.read? (machine.counter + 1)).bind machine.registers.read?
  else
    none

/-- The values that a run with the standard set prints, in order. -/
def printed (machine : Machine) (sink : Sink) : List UInt8 :=
  (trail .standard machine sink).filterMap fun attempt =>
    attempt.1.valueToPrint?

variable {machine : Machine}

theorem printed_of_stops
    {sink : Sink}
    (running : machine.state = .running)
    (stops : (step .standard machine sink).result ≠ .ok .running) :
    machine.printed sink = machine.valueToPrint?.toList := by
  rw [printed,
    trail_of_stops InstructionSet.usesBuiltIns_standard.neverRetreats running
      stops,
    List.filterMap_eq_flatMap_toList, List.flatMap_singleton]

theorem printed_of_goesOn
    {sink : Sink}
    (goesOn : (step .standard machine sink).result = .ok .running) :
    machine.printed sink =
      machine.valueToPrint?.toList ++
        (step .standard machine sink).machine.printed
          (step .standard machine sink).sink := by
  rw [printed, printed,
    trail_of_goesOn InstructionSet.usesBuiltIns_standard.neverRetreats goesOn,
    List.filterMap_eq_flatMap_toList, List.filterMap_eq_flatMap_toList,
    List.flatMap_cons]

/-- What a running machine is about to print is the value in front of it. -/
theorem valueToPrint?_eq_some_iff
    (running : machine.state = .running)
    {value : UInt8} :
    machine.valueToPrint? = some value ↔
      Prints .standard machine Instruction.printRegister value := by
  have dispatched :
      InstructionSet.standard.routine? Instruction.printRegister =
        some BuiltIn.printRegister.routine :=
    rfl
  constructor
  · intro toPrint
    unfold valueToPrint? at toPrint
    split at toPrint
    · rename_i fetched
      exact
        ⟨running, fetched, dispatched, Option.bind_eq_some_iff.mp toPrint⟩
    · cases toPrint
  · intro prints
    rw [valueToPrint?, if_pos prints.fetched]
    exact Option.bind_eq_some_iff.mpr prints.named

section Output

variable
  {sink : Sink}
  (running : machine.state = .running)
  (noLimit : sink.limit = none)

include running noLimit

/-- A step writes the line of the value that is in front of it, if there is one. -/
theorem accepted_step :
    (step .standard machine sink).sink.accepted =
      sink.accepted ++
        machine.valueToPrint?.toList.flatMap Evaluation.decimalLine := by
  cases toPrint : machine.valueToPrint? with
  | some value =>
      have prints := (valueToPrint?_eq_some_iff running).mp toPrint
      rw [prints.step_of_accepts (Sink.verdict_of_no_limit noLimit _),
        Sink.write_of_no_limit noLimit]
      simp
  | none =>
      have steps :=
        builtInSteps_step InstructionSet.usesBuiltIns_standard machine sink
      generalize step .standard machine sink = outcome at steps ⊢
      cases steps with
      | halted | outside | unknown | refused =>
          exact (List.append_nil _).symm
      | cutOff _ _ _ _ full =>
          cases (Sink.verdict_of_no_limit noLimit _).symm.trans full
      | @performed opcode builtIn registers output _ fetched found performs =>
          have silent : output = [] := by
            by_contra writes
            obtain ⟨value, prints, -⟩ :=
              Prints.of_effect running fetched found performs writes
            obtain rfl := InstructionSet.eq_opcode_of_standard prints.dispatched
            have printing := (valueToPrint?_eq_some_iff running).mpr prints
            cases toPrint.symm.trans printing
          rw [silent, Sink.write_nil_sink]
          exact (List.append_nil _).symm

/-- A run writes the lines of the values that it prints, and nothing else. -/
theorem accepted_run :
    (run .standard machine sink).sink.accepted =
      sink.accepted ++
        (machine.printed sink).flatMap Evaluation.decimalLine := by
  have usesBuiltIns := InstructionSet.usesBuiltIns_standard
  have neverRetreats := usesBuiltIns.neverRetreats
  induction machine, sink using run_induction neverRetreats with
  | stop machine sink stops =>
      rw [run_of_stops neverRetreats stops, accepted_step running noLimit,
        printed_of_stops running stops]
  | next machine sink goesOn inductionHypothesis =>
      have written :=
        inductionHypothesis (state_of_result goesOn)
          ((limit_step usesBuiltIns).trans noLimit)
      rw [run_of_goesOn neverRetreats goesOn, Outcome.after_sink, written,
        accepted_step running noLimit, printed_of_goesOn goesOn,
        List.flatMap_append, List.append_assoc]

end Output

end Machine

end EightBit
