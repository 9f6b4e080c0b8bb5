import EightBit.Proofs.CommandLine.Arguments
import EightBit.Proofs.CommandLine.PlainLines
import EightBit.Proofs.Text.Numeral

namespace EightBit

/-!
# What the flags of a run change

The flags of a run decide what is written for the operator and nothing else. In
minimal mode that is what the machine has to tell, in plain text: its trace, if there
is one, and the instruction without routine, if the run ends at one. Otherwise the
front end says in front of it what is loaded and run, and behind it how the run came
to its end, unless it faults.
-/

/-! ## Plain text -/

namespace Console

theorem diagnosticLine_of_minimal
    {console : Console}
    (minimal : console.minimal = true)
    (text : String) :
    console.diagnosticLine text = text ++ "\n" := by
  simp [diagnosticLine, diagnostic, minimal]

/-- In minimal mode and without colors, notices are shown as their texts are. -/
theorem notices_of_plain
    {console : Console}
    (plain : console.minimal = true ∨ console.colored = false)
    (given : List Notice) :
    console.notices given =
      String.join ((given.map Notice.text).map (· ++ "\n")) := by
  have shown :
      ∀ notice : Notice,
        console.diagnosticLine notice.text = notice.text ++ "\n" := by
    intro notice
    rcases plain with minimal | colorless
    · exact diagnosticLine_of_minimal minimal _
    · exact diagnosticLine_of_colorless colorless _
  simp only [notices, shown, List.map_map, Function.comp_def]

end Console

theorem Snapshot.escape_not_mem_spaced (bytes : List UInt8) :
    '\x1b' ∉ spaced bytes := by
  intro member
  obtain ⟨byte, -, inByte⟩ := List.mem_flatMap.mp member
  rcases List.mem_cons.mp inByte with isBlank | inDigits
  · exact absurd isBlank (by decide)
  · exact
      Numeral.not_mem_writePadded (by decide) (by decide) (by decide) 2 _
        inDigits

/-- A trace line is plain text. -/
theorem Snapshot.escape_not_mem_line (snapshot : Snapshot) :
    '\x1b' ∉ snapshot.line.toList := by
  have address : '\x1b' ∉ hexadecimal snapshot.address :=
    Numeral.not_mem_writePadded (by decide) (by decide) (by decide) 2 _
  have start : '\x1b' ∉ "TRACE: ".toList := by decide
  have between : '\x1b' ∉ " |".toList := by decide
  unfold line characters
  rw [String.toList_ofList]
  simp only [List.mem_append, address, start, between, escape_not_mem_spaced,
    or_self, not_false_eq_true]

/-! ## What is told of a run -/

/-- The line on the instruction without routine, if a run ends at one. -/
def unknownLine? : Except Fault State → Option String
  | .ok (.halted (.unknownOpcode opcode address)) =>
      some
        ("Unknown instruction 0b" ++
          String.ofList (Numeral.writePadded 2 8 opcode.toNat) ++
          " at address 0x" ++
          String.ofList (Numeral.writePadded 16 2 address))
  | _ => none

theorem map_text_announcement (result : Except Fault State) :
    (Machine.announcement result).map Notice.text =
      (unknownLine? result).toList := by
  match result with
  | .error _ =>
      rfl
  | .ok .running =>
      rfl
  | .ok (.halted .instruction) =>
      rfl
  | .ok (.halted (.unknownOpcode _ _)) =>
      rfl

theorem escape_not_mem_unknownLine
    {result : Except Fault State}
    {line : String}
    (told : unknownLine? result = some line) :
    '\x1b' ∉ line.toList := by
  unfold unknownLine? at told
  split at told
  · rename_i opcode address
    have start : '\x1b' ∉ "Unknown instruction 0b".toList := by decide
    have between : '\x1b' ∉ " at address 0x".toList := by decide
    have opcodeDigits :
        '\x1b' ∉ Numeral.writePadded 2 8 opcode.toNat :=
      Numeral.not_mem_writePadded (by decide) (by decide) (by decide) 8 _
    have addressDigits : '\x1b' ∉ Numeral.writePadded 16 2 address :=
      Numeral.not_mem_writePadded (by decide) (by decide) (by decide) 2 _
    obtain rfl := Option.some.inj told
    simp only [String.toList_append, String.toList_ofList, List.mem_append,
      start, between, opcodeDigits, addressDigits, or_self,
      not_false_eq_true]
  · cases told

namespace Image

/--
The lines that a machine tells while it runs an image. If it traces, these are the
trace lines of the machine in front of each instruction that it attempts; then comes
the instruction without routine, if the run ends at one.
-/
def narration (image : Image) (tracing : Bool) : List String :=
  (if tracing then
    (Machine.trail .standard image.loaded Sink.unlimited).map fun attempt =>
      attempt.1.snapshot.line
  else
    []) ++
    (unknownLine? image.outcome.result).toList

theorem map_text_notices
    (image : Image)
    (tracing : Bool) :
    (image.notices tracing).map Notice.text = image.narration tracing := by
  have traced :
      (if tracing then
        Machine.traceOf (Machine.trail .standard image.loaded Sink.unlimited)
      else
        []).map Notice.text =
        if tracing then
          (Machine.trail .standard image.loaded Sink.unlimited).map
            fun attempt => attempt.1.snapshot.line
        else
          [] := by
    cases tracing with
    | false =>
        rfl
    | true =>
        exact List.map_map
  rw [notices, narration, List.map_append, traced, map_text_announcement]

/-- What is told of a run is plain text. -/
theorem escape_not_mem_of_mem_narration
    {image : Image}
    {tracing : Bool}
    {line : String}
    (member : line ∈ image.narration tracing) :
    '\x1b' ∉ line.toList := by
  rcases List.mem_append.mp member with inTrace | isEnd
  · split at inTrace
    · obtain ⟨attempt, -, rfl⟩ := List.mem_map.mp inTrace
      exact attempt.1.snapshot.escape_not_mem_line
    · cases inTrace
  · exact escape_not_mem_unknownLine (Option.mem_toList.mp isEnd)

end Image

theorem escape_not_mem_join_lines
    {lines : List String}
    (plain : ∀ line ∈ lines, '\x1b' ∉ line.toList) :
    '\x1b' ∉ (String.join (lines.map (· ++ "\n"))).toList := by
  rw [String.toList_join]
  intro member
  obtain ⟨ended, isLine, inLine⟩ := List.mem_flatMap.mp member
  obtain ⟨line, inLines, rfl⟩ := List.mem_map.mp isLine
  rw [String.toList_append] at inLine
  rcases List.mem_append.mp inLine with inText | isLineFeed
  · exact plain line inLines inText
  · exact absurd isLineFeed (by decide)

/-! ## Runs with flags -/

namespace Session

section Run

variable
  {read : String → Except ReadError (List UInt8)}
  {path : String}

/-- The flags of a run change neither its output nor how it ends. -/
theorem run_flags
    (environment : Environment)
    (flags otherFlags : List Flag) :
    (run read environment path flags).output =
        (run read environment path otherFlags).output ∧
      (run read environment path flags).ending =
        (run read environment path otherFlags).ending := by
  cases load : Image.load read path with
  | error error =>
      rw [run_of_load_eq_error load, run_of_load_eq_error load]
      exact ⟨rfl, rfl⟩
  | ok image =>
      rw [output_run load, output_run load, ending_run load, ending_run load]
      exact ⟨rfl, rfl⟩

theorem closing_of_minimal
    {console : Console}
    (minimal : console.minimal = true)
    (path : String)
    (result : Except Fault State) :
    closing console path result = "" := by
  match result with
  | .error _ =>
      rfl
  | .ok .running | .ok (.halted .instruction)
  | .ok (.halted (.unknownOpcode _ _)) =>
      simp [closing, endingMessage, fileMessage, minimal]

/-- In minimal mode only the machine has something to tell. -/
theorem diagnostics_runImage_of_minimal
    {console : Console}
    (minimal : console.minimal = true)
    (tracing : Bool)
    (path : String)
    (image : Image) :
    (runImage console tracing path image).diagnostics =
      String.join ((image.narration tracing).map (· ++ "\n")) := by
  rw [runImage_eq, Console.notices_of_plain (.inl minimal),
    Image.map_text_notices, closing_of_minimal minimal, fileMessage,
    Console.message_of_minimal minimal, Console.message_of_minimal minimal]
  simp

/-- Without colors the front end speaks in front of the machine and behind it. -/
theorem diagnostics_runImage_of_plain
    (tracing : Bool)
    (path : String)
    (image : Image) :
    (runImage ⟨false, false⟩ tracing path image).diagnostics =
      loadingLine path ++ runningLine image ++
        String.join ((image.narration tracing).map (· ++ "\n")) ++
        closing ⟨false, false⟩ path image.outcome.result := by
  rw [runImage_eq, Console.notices_of_plain (.inr rfl), Image.map_text_notices,
    fileMessage_loading, message_running]

theorem closing_halted
    {result : Except Fault State}
    {halt : Halt}
    (halted : result = .ok (.halted halt))
    (path : String) :
    closing ⟨false, false⟩ path result = haltLine halt ++ completedLine path := by
  rw [halted, closing, endingMessage_halted, fileMessage_completed]

/-- Program output is plain text. -/
theorem escape_not_mem_output_run
    (environment : Environment)
    (flags : List Flag) :
    '\x1b' ∉ (run read environment path flags).output.toList := by
  cases load : Image.load read path with
  | error error =>
      rw [run_of_load_eq_error load]
      simp
  | ok image =>
      have noEscape :
          ∀ line ∈ image.printed.map fun value => toString value.toNat,
            '\x1b' ∉ line.toList := by
        intro line member
        obtain ⟨value, -, rfl⟩ := List.mem_map.mp member
        rw [← Numeral.ofList_write_ten, String.toList_ofList]
        exact Numeral.not_mem_write (by decide) (by decide) (by decide) _
      have plain := escape_not_mem_join_lines noEscape
      rw [List.map_map] at plain
      rw [output_run load]
      exact plain

/-- In minimal mode nothing is told of what does not load. -/
theorem diagnostics_run_minimal_of_error
    {error : Image.LoadError}
    (refused : Image.load read path = .error error)
    (environment : Environment)
    (trace : Bool) :
    (run read environment path (Request.runFlags trace true)).diagnostics =
      "" := by
  rw [run_of_load_eq_error refused, Request.contains_minimal_runFlags]
  simp [fileMessage]

theorem diagnostics_run_minimal_of_ok
    {image : Image}
    (loaded : Image.load read path = .ok image)
    (environment : Environment)
    (trace : Bool) :
    (run read environment path (Request.runFlags trace true)).diagnostics =
      String.join
        ((image.narration
          (trace || environment.settings.tracing)).map (· ++ "\n")) := by
  rw [run_of_load_eq_ok loaded, Request.contains_minimal_runFlags,
    Request.contains_trace_runFlags, diagnostics_runImage_of_minimal rfl]

theorem diagnostics_run_plain_of_error
    {error : Image.LoadError}
    (refused : Image.load read path = .error error)
    {environment : Environment}
    (colorless : environment.forcesColor = false)
    (trace : Bool) :
    (run read environment path (Request.runFlags trace false)).diagnostics =
      loadingLine path := by
  rw [run_of_load_eq_error refused, Request.contains_minimal_runFlags,
    colorless, fileMessage_loading]

/-- Out of minimal mode the front end speaks in front of the machine and behind it. -/
theorem diagnostics_run_plain_of_ok
    {image : Image}
    (loaded : Image.load read path = .ok image)
    {environment : Environment}
    (colorless : environment.forcesColor = false)
    (trace : Bool) :
    (run read environment path (Request.runFlags trace false)).diagnostics =
      loadingLine path ++ runningLine image ++
        (run read environment path (Request.runFlags trace true)).diagnostics ++
        closing ⟨false, false⟩ path image.outcome.result := by
  rw [diagnostics_run_minimal_of_ok loaded, run_of_load_eq_ok loaded,
    Request.contains_minimal_runFlags, Request.contains_trace_runFlags,
    colorless, diagnostics_runImage_of_plain]

/-- In minimal mode the operator reads plain text. -/
theorem escape_not_mem_diagnostics_run_minimal
    (environment : Environment)
    (trace : Bool) :
    '\x1b' ∉
      (run read environment path
        (Request.runFlags trace true)).diagnostics.toList := by
  cases load : Image.load read path with
  | error error =>
      rw [diagnostics_run_minimal_of_error load]
      simp
  | ok image =>
      rw [diagnostics_run_minimal_of_ok load]
      exact
        escape_not_mem_join_lines fun _ => Image.escape_not_mem_of_mem_narration

/--
What the operator is told of a path without image, in minimal mode and out of it.
-/
structure TellsOfRefusal
    (environment : Environment)
    (path told shown : String) :
    Prop where
  minimal : told = ""
  plain : environment.forcesColor = false → shown = loadingLine path

/--
What the operator is told of a run of an image, in minimal mode and out of it. A run
ends with a fault or halted, so out of minimal mode, without colors, nothing else is
shown.
-/
structure TellsOfRun
    (environment : Environment)
    (path : String)
    (image : Image)
    (tracing : Bool)
    (told shown : String) :
    Prop where
  minimal : told = String.join ((image.narration tracing).map (· ++ "\n"))
  plainFault :
    environment.forcesColor = false →
      ∀ fault,
        image.outcome.result = .error fault →
          shown = loadingLine path ++ runningLine image ++ told
  plainHalt :
    environment.forcesColor = false →
      ∀ halt,
        image.outcome.result = .ok (.halted halt) →
          shown =
            loadingLine path ++ runningLine image ++ told ++ haltLine halt ++
              completedLine path
  ends :
    (∃ fault, image.outcome.result = .error fault) ∨
      ∃ halt, image.outcome.result = .ok (.halted halt)

theorem tellsOfRefusal
    {error : Image.LoadError}
    (refused : Image.load read path = .error error)
    (environment : Environment)
    (trace : Bool) :
    TellsOfRefusal environment path
      (run read environment path (Request.runFlags trace true)).diagnostics
      (run read environment path
        (Request.runFlags trace false)).diagnostics where
  minimal := diagnostics_run_minimal_of_error refused environment trace
  plain := fun colorless =>
    diagnostics_run_plain_of_error refused colorless trace

theorem tellsOfRun
    {image : Image}
    (loaded : Image.load read path = .ok image)
    (environment : Environment)
    (trace : Bool) :
    TellsOfRun environment path image (trace || environment.settings.tracing)
      (run read environment path (Request.runFlags trace true)).diagnostics
      (run read environment path
        (Request.runFlags trace false)).diagnostics where
  minimal := diagnostics_run_minimal_of_ok loaded environment trace
  plainFault := by
    intro colorless fault faulted
    rw [diagnostics_run_plain_of_ok loaded colorless, faulted, closing,
      String.append_empty]
  plainHalt := by
    intro colorless halt halted
    rw [diagnostics_run_plain_of_ok loaded colorless, closing_halted halted,
      ← String.append_assoc]
  ends := image.outcome_faults_or_halts

end Run

end Session

/--
However a run of a path is asked for, neither of its flags changes what is written to
the standard output, nor whether and with which report the session fails. In minimal
mode, with or without colors, the operator is told in plain text what the machine has
to tell, and nothing if there is no image to run. Out of it, without colors, the front
end says in front of that what it loads and runs, and behind it why the machine has
halted, unless it has faulted.
-/
theorem run_flags_change_diagnostics_only
    {path : String}
    {arguments : Bool → Bool → List String}
    (asks : Request.AsksToRun path arguments)
    (read : String → Except ReadError (List UInt8))
    (environment : Environment) :
    let session := fun trace minimal =>
      Session.ofArguments read environment (arguments trace minimal)
    (∀ trace minimal otherTrace otherMinimal,
      (session trace minimal).output =
          (session otherTrace otherMinimal).output ∧
        (session trace minimal).ending =
          (session otherTrace otherMinimal).ending) ∧
    ∀ trace,
      let told := (session trace true).diagnostics
      let shown := (session trace false).diagnostics
      '\x1b' ∉ told.toList ∧
      '\x1b' ∉ (session trace true).output.toList ∧
      (∀ error,
        Image.load read path = .error error →
          Session.TellsOfRefusal environment path told shown) ∧
      ∀ image,
        Image.load read path = .ok image →
          Session.TellsOfRun environment path image
            (trace || environment.settings.tracing) told shown := by
  have asked :
      ∀ trace minimal,
        Session.ofArguments read environment (arguments trace minimal) =
          Session.run read environment path
            (Request.runFlags trace minimal) := by
    intro trace minimal
    rw [Session.ofArguments, Request.ofArguments_of_asksToRun asks]
    rfl
  intro session
  simp only [session, asked]
  constructor
  · intro trace minimal otherTrace otherMinimal
    exact Session.run_flags environment _ _
  · intro trace
    exact
      ⟨Session.escape_not_mem_diagnostics_run_minimal environment trace,
        Session.escape_not_mem_output_run environment _,
        fun _ refused => Session.tellsOfRefusal refused environment trace,
        fun _ loaded => Session.tellsOfRun loaded environment trace⟩

/-- A file tree with one program, which prints eight and then finds a zero. -/
def printingEight : FileTree :=
  FileTree.empty.insert "p.bin" (.file [130, 0, 8, 71, 0])

/-- The lines of the machine stand between those of the front end. -/
theorem run_flags_change_diagnostics_only_printing :
    (Request.AsksToRun "p.bin" fun trace minimal =>
      "run" :: "p.bin" :: Request.flagArguments trace minimal) ∧
      (Session.ofArguments printingEight.read ⟨fun _ => none⟩
        ["run", "p.bin", "--trace"]).diagnostics =
        "     Loading target p.bin\n" ++
          "     Running 5 byte image\n" ++
          "TRACE: 00 | 82 00 08 | 00 00 00 00 00 00 00 F4\n" ++
          "TRACE: 03 | 47 00 00 | 08 00 00 00 00 00 00 F4\n" ++
          "TRACE: 05 | 00 00 00 | 08 00 00 00 00 00 00 F4\n" ++
          "Unknown instruction 0b00000000 at address 0x05\n" ++
          "     Stopped unknown instruction at 0x05\n" ++
          "   Completed target p.bin\n" := by
  have asks :
      Request.AsksToRun "p.bin" fun trace minimal =>
        "run" :: "p.bin" :: Request.flagArguments trace minimal :=
    .flagsBehind (by decide +kernel)
  let image : Image := ⟨[130, 0, 8, 71, 0], by decide⟩
  have loaded : Image.load printingEight.read "p.bin" = .ok image := by
    decide +kernel
  have halted : image.outcome.result = .ok (.halted (.unknownOpcode 0 5)) := by
    decide +kernel
  have narrated :
      image.narration true =
        ["TRACE: 00 | 82 00 08 | 00 00 00 00 00 00 00 F4",
          "TRACE: 03 | 47 00 00 | 08 00 00 00 00 00 00 F4",
          "TRACE: 05 | 00 00 00 | 08 00 00 00 00 00 00 F4",
          "Unknown instruction 0b00000000 at address 0x05"] := by
    decide +kernel
  have environmentColorless :
      Environment.forcesColor ⟨fun _ => none⟩ = false := by
    decide +kernel
  obtain ⟨-, perTrace⟩ :=
    run_flags_change_diagnostics_only asks printingEight.read ⟨fun _ => none⟩
  obtain ⟨-, -, -, ofImage⟩ := perTrace true
  have tells := ofImage image loaded
  have shown := tells.plainHalt environmentColorless _ halted
  rw [tells.minimal, Bool.true_or, narrated] at shown
  refine ⟨asks, shown.trans ?_⟩
  decide +kernel

end EightBit
