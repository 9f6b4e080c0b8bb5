import EightBit.Proofs.CommandLine.Arguments
import EightBit.Proofs.CommandLine.RunSession
import EightBit.Proofs.Settings

namespace EightBit

/-!
# Ways to start a run

A path alone, a path behind the command, and a path behind the command behind another
path all make the same request. What a run then does depends on the flags and on the
environment only in whether there are colors, whether it is in minimal mode, and whether
it is traced; and it is traced for the flag and for the variable at `1` alike.
-/

/-- A text that is taken as a path in front of any command. -/
structure IsLeadingPath (text : String) : Prop where
  nonempty : text ≠ ""
  /-- A text with a dash in front is a flag, unless it is the dash alone. -/
  noFlag : text.toList.head? = some '-' → text = "-"
  noCommand : text ∉ ["run", "check", "help"]

instance (text : String) : Decidable (IsLeadingPath text) :=
  decidable_of_iff
    (text ≠ "" ∧ (text.toList.head? = some '-' → text = "-") ∧
      text ∉ ["run", "check", "help"])
    ⟨fun ⟨nonempty, noFlag, noCommand⟩ => ⟨nonempty, noFlag, noCommand⟩,
      fun ⟨nonempty, noFlag, noCommand⟩ => ⟨nonempty, noFlag, noCommand⟩⟩

/-! ## Arguments -/

theorem Argument.ofText_eq_word_iff {text : String} :
    ofText text = .word text ↔ (text.toList.head? = some '-' → text = "-") := by
  unfold ofText
  split
  · rename_i shape
    simp [shape, ← String.toList_inj]
  · rename_i shape
    simp [shape, ← String.toList_inj]
  · rename_i shape
    simp [shape, ← String.toList_inj]
  · rename_i notSeparator notLong notShort
    simp only [true_iff]
    intro dashed
    cases shape : text.toList with
    | nil =>
        simp [shape] at dashed
    | cons first rest =>
        obtain rfl : first = '-' := by
          simpa [shape] using dashed
        cases rest with
        | nil =>
            exact String.toList_inj.mp shape
        | cons second others =>
            exact (notShort second others shape).elim

theorem Command.ofWord?_eq_none_iff {text : String} :
    ofWord? text = none ↔ text ∉ ["run", "check", "help"] := by
  rw [ofWord?, List.find?_eq_none]
  simp [word, eq_comm]

namespace Request

theorem readFrom_cons_of_isLeadingPath
    {text : String}
    (leads : IsLeadingPath text)
    (rest : List String) :
    readFrom none (text :: rest) = readFrom (some text) rest := by
  have isWord := Argument.ofText_eq_word_iff.mpr leads.noFlag
  have noCommand := Command.ofWord?_eq_none_iff.mpr leads.noCommand
  simp [readFrom, isWord, noCommand, leads.nonempty]

/-- A text alone is taken as a path exactly if it can lead. -/
theorem ofArguments_singleton_eq_run_iff {text : String} :
    ofArguments [text] = some (.run text []) ↔ IsLeadingPath text := by
  constructor
  · intro accepted
    rw [ofArguments, readFrom] at accepted
    cases form : Argument.ofText text with
    | separator =>
        simp [form, ofWords, CommandArguments.addWords, ofPath?] at accepted
    | long name =>
        simp only [form, ofName?] at accepted
        split at accepted <;> simp at accepted
    | short letters =>
        simp only [form] at accepted
        obtain ⟨letter, -, asked⟩ := Option.bind_eq_some_iff.mp accepted
        unfold ofLetter? at asked
        split at asked <;> simp at asked
    | word other =>
        obtain rfl := Argument.eq_of_ofText_eq_word form
        simp only [form] at accepted
        cases named : Command.ofWord? other with
        | some command =>
            rw [named] at accepted
            cases command <;> cases accepted
        | none =>
            refine
              ⟨?_, Argument.ofText_eq_word_iff.mp form,
                Command.ofWord?_eq_none_iff.mp named⟩
            rintro rfl
            rw [named] at accepted
            cases accepted
  · intro leads
    rw [ofArguments, readFrom_cons_of_isLeadingPath leads]
    rfl

theorem ofArguments_run_of_isLeadingPath
    {path : String}
    (leads : IsLeadingPath path) :
    ofArguments ["run", path] = some (.run path []) := by
  have isPath : IsPathArgument path := by
    refine ⟨Argument.ofText_eq_word_iff.mpr leads.noFlag, ?_⟩
    simpa using leads.nonempty
  rw [ofArguments_run, ofFlagged,
    CommandArguments.read_cons_of_isPathArgument isPath]
  rfl

/-- A path in front of a command is read and does not count. -/
theorem ofArguments_cons_run_of_isLeadingPath
    {text : String}
    (leads : IsLeadingPath text)
    (arguments : List String) :
    ofArguments (text :: "run" :: arguments) =
      ofArguments ("run" :: arguments) := by
  rw [ofArguments, readFrom_cons_of_isLeadingPath leads]
  rfl

end Request

/-! ## Environments -/

namespace Environment

/-- The environment with the variable of the settings at a value, or unset. -/
def withTraceVariable
    (environment : Environment)
    (value : Option (List UInt8)) :
    Environment where
  bytes? name :=
    if name = Settings.traceVariable then value else environment.bytes? name

@[simp] theorem forcesColor_withTraceVariable
    (environment : Environment)
    (value : Option (List UInt8)) :
    (environment.withTraceVariable value).forcesColor =
      environment.forcesColor := by
  rfl

/-- Only the variable at `1` has instructions reported. -/
@[simp] theorem tracing_withTraceVariable
    (environment : Environment)
    (value : Option (List UInt8)) :
    (environment.withTraceVariable value).settings.tracing =
      (value = some (Text.encode "1") : Bool) := by
  rw [settings, Settings.ofVariable_eq]
  simp [withTraceVariable]

end Environment

/-! ## Runs -/

namespace Session

variable {read : String → Except ReadError (List UInt8)}

/-- Of flags and environment a run takes its colors, minimal mode and tracing. -/
theorem run_congr
    {first second : Environment}
    {firstFlags secondFlags : List Flag}
    (colors : first.forcesColor = second.forcesColor)
    (minimal : firstFlags.contains .minimal = secondFlags.contains .minimal)
    (tracing :
      (firstFlags.contains .trace || first.settings.tracing) =
        (secondFlags.contains .trace || second.settings.tracing))
    (path : String) :
    run read first path firstFlags = run read second path secondFlags := by
  rw [run, run, colors, minimal, tracing]

theorem ofArguments_of_request
    {arguments : List String}
    {path : String}
    {flags : List Flag}
    (request : Request.ofArguments arguments = some (.run path flags))
    (environment : Environment) :
    ofArguments read environment arguments =
      run read environment path flags := by
  rw [ofArguments, request]
  rfl

/--
What is told of a run that loads an image: in front of the closing words, the notices
of a machine that traces or does not.
-/
structure RunsImage
    (console : Console)
    (path : String)
    (image : Image)
    (tracing : Bool)
    (session : Session) :
    Prop where
  diagnostics :
    session.diagnostics =
      fileMessage console "Loading" path ++
        console.message .green "Running"
          (toString image.length ++ " byte image") ++
        console.notices (image.notices tracing) ++
        closing console path image.outcome.result
  ending : session.ending = Ending.ofResult image.outcome.result

theorem runsImage_run
    {path : String}
    {image : Image}
    (loaded : Image.load read path = .ok image)
    (environment : Environment)
    (flags : List Flag) :
    RunsImage ⟨environment.forcesColor, flags.contains .minimal⟩ path image
      (flags.contains .trace || environment.settings.tracing)
      (run read environment path flags) where
  diagnostics := by
    rw [run_of_load_eq_ok loaded, runImage_eq, decimal_eq_toString]
  ending := ending_run loaded environment flags

end Session

/--
A path that can lead is run in the same way alone, behind the command, and behind the
command behind any other such path. With the flag for tracing, whatever the variable
is, it is run as without the flag and the variable at `1`; without the flag and the
variable at anything else, it is run as with the variable unset. The machine traces in
the former case and not in the latter.
-/
theorem runs_started_alike
    {path other : String}
    (leads : IsLeadingPath path)
    (otherLeads : IsLeadingPath other)
    (read : String → Except ReadError (List UInt8))
    (environment : Environment) :
    let started (value : Option (List UInt8)) :=
      Session.ofArguments read (environment.withTraceVariable value)
    (Session.ofArguments read environment ["run", path] =
        Session.run read environment path [] ∧
      Session.ofArguments read environment [path] =
        Session.ofArguments read environment ["run", path] ∧
      Session.ofArguments read environment [other, "run", path] =
        Session.ofArguments read environment ["run", path]) ∧
    (∀ value,
      started value ["run", path, "--trace"] =
        started (some (Text.encode "1")) ["run", path]) ∧
    (∀ value,
      value ≠ some (Text.encode "1") →
        started value ["run", path] = started none ["run", path]) ∧
    ∀ image,
      Image.load read path = .ok image →
        Session.RunsImage ⟨environment.forcesColor, false⟩ path image true
            (started (some (Text.encode "1")) ["run", path]) ∧
          Session.RunsImage ⟨environment.forcesColor, false⟩ path image false
            (started none ["run", path]) := by
  have request := Request.ofArguments_run_of_isLeadingPath leads
  have traced :
      Request.ofArguments ["run", path, "--trace"] =
        some (.run path [.trace]) :=
    Request.ofArguments_of_asksToRun (.flagsBehind request) true false
  have alone := Request.ofArguments_singleton_eq_run_iff.mpr leads
  have behind :
      Request.ofArguments [other, "run", path] = some (.run path []) := by
    rw [Request.ofArguments_cons_run_of_isLeadingPath otherLeads, request]
  refine ⟨⟨?_, ?_, ?_⟩, ?_, ?_, ?_⟩
  · exact Session.ofArguments_of_request request environment
  · rw [Session.ofArguments_of_request alone,
      Session.ofArguments_of_request request]
  · rw [Session.ofArguments_of_request behind,
      Session.ofArguments_of_request request]
  · intro value
    simp only [Session.ofArguments_of_request traced,
      Session.ofArguments_of_request request]
    apply Session.run_congr
    · rfl
    · rfl
    · simp
  · intro value other
    simp only [Session.ofArguments_of_request request]
    apply Session.run_congr
    · rfl
    · rfl
    · simp [other]
  · intro image loaded
    simp only [Session.ofArguments_of_request request]
    constructor
    · have told :=
        Session.runsImage_run loaded
          (environment.withTraceVariable (some (Text.encode "1"))) []
      simpa using told
    · have told :=
        Session.runsImage_run loaded (environment.withTraceVariable none) []
      simpa using told

/-- A file tree with one program, which halts at once. -/
def haltingAtOnce : FileTree :=
  FileTree.empty.insert "p.bin" (.file [1])

/-- A variable that says yes does not have it traced, with the flag it is. -/
theorem runs_started_alike_halting :
    IsLeadingPath "p.bin" ∧ IsLeadingPath "-" ∧
      Session.ofArguments haltingAtOnce.read ⟨fun _ => none⟩
          ["-", "run", "p.bin"] =
        Session.ofArguments haltingAtOnce.read ⟨fun _ => none⟩ ["p.bin"] ∧
      (some (Text.encode "yes") ≠ some (Text.encode "1") ∧
        Session.ofArguments haltingAtOnce.read
            ((Environment.mk fun _ => none).withTraceVariable
              (some (Text.encode "yes")))
            ["run", "p.bin"] =
          Session.ofArguments haltingAtOnce.read
            ((Environment.mk fun _ => none).withTraceVariable none)
            ["run", "p.bin"]) ∧
      Image.load haltingAtOnce.read "p.bin" = .ok ⟨[1], by decide⟩ ∧
      (Session.ofArguments haltingAtOnce.read
          ((Environment.mk fun _ => none).withTraceVariable
            (some (Text.encode "yes")))
          ["run", "p.bin", "--trace"]).ending = .succeeded := by
  have leads : IsLeadingPath "p.bin" := by decide
  have otherLeads : IsLeadingPath "-" := by decide
  have loaded :
      Image.load haltingAtOnce.read "p.bin" = .ok ⟨[1], by decide⟩ := by
    decide +kernel
  obtain ⟨⟨-, alone, behind⟩, traced, untraced, ofImage⟩ :=
    runs_started_alike leads otherLeads haltingAtOnce.read ⟨fun _ => none⟩
  have different : some (Text.encode "yes") ≠ some (Text.encode "1") := by
    decide +kernel
  have ending := (ofImage _ loaded).1.ending
  rw [← traced (some (Text.encode "yes"))] at ending
  exact
    ⟨leads, otherLeads, behind.trans alone.symm,
      ⟨different, untraced _ different⟩, loaded, ending.trans (by decide +kernel)⟩

end EightBit
