import EightBit.CommandLine.Session
import EightBit.Proofs.Machine.Ending
import EightBit.Proofs.Machine.PrintedLines
import EightBit.Proofs.Machine.Resumption

namespace EightBit

/-!
# Sessions that run an image

A session runs an image on a fresh machine that may trace. Whether it does shows in
the notices only, so everything else of the session is decided by the one run of the
machine that does not trace.
-/

namespace Image

/-- What comes of running an image on a fresh machine that does not trace. -/
def outcome (image : Image) : Outcome State :=
  Machine.run .standard image.loaded Sink.unlimited

/-- The values that an image prints when it is run, in order. -/
def printed (image : Image) : List UInt8 :=
  image.loaded.printed Sink.unlimited

/--
What a machine tells while it runs an image: if it traces, itself in front of each
instruction that it attempts, and then the instruction without routine, if the run
ends at one.
-/
def notices (image : Image) (tracing : Bool) : List Notice :=
  (if tracing then
    Machine.traceOf (Machine.trail .standard image.loaded Sink.unlimited)
  else
    []) ++
    Machine.announcement image.outcome.result

/-- Tracing shows in the notices of a run only. -/
theorem run_setTracing_loaded
    (image : Image)
    (tracing : Bool) :
    let outcome :=
      Machine.run .standard (image.loaded.setTracing tracing) Sink.unlimited
    outcome.result = image.outcome.result ∧
      outcome.sink = image.outcome.sink ∧
        outcome.notices = image.notices tracing := by
  have usesBuiltIns := InstructionSet.usesBuiltIns_standard
  have announced :
      image.outcome.notices = Machine.announcement image.outcome.result :=
    Machine.notices_run_of_silent usesBuiltIns image.loaded Sink.unlimited rfl
      rfl
  cases tracing with
  | false =>
      have untraced : image.loaded.setTracing false = image.loaded := rfl
      rw [notices, ← announced, if_neg Bool.false_ne_true, List.nil_append,
        untraced]
      exact ⟨rfl, rfl, rfl⟩
  | true =>
      obtain ⟨traced, -⟩ :=
        Machine.run_setTracing usesBuiltIns image.loaded Sink.unlimited rfl
      rw [notices, ← announced, if_pos rfl, traced, ← outcome]
      simp only [Outcome.traced, and_self]

/-- A run of an image ends with a fault or with the machine halted. -/
theorem outcome_faults_or_halts (image : Image) :
    (∃ fault, image.outcome.result = .error fault) ∨
      ∃ halt, image.outcome.result = .ok (.halted halt) := by
  obtain ⟨count, -, runs⟩ :=
    Machine.exists_runs_run
      InstructionSet.usesBuiltIns_standard.neverRetreats image.loaded
      Sink.unlimited
  have ended : image.outcome.result ≠ .ok .running := runs.result_ne_running
  cases result : image.outcome.result with
  | error fault =>
      exact .inl ⟨fault, rfl⟩
  | ok state =>
      cases state with
      | running =>
          exact (ended result).elim
      | halted halt =>
          exact .inr ⟨halt, rfl⟩

/-- The output of a run is the lines of the values that it prints. -/
theorem asciiText_accepted_outcome (image : Image) :
    Text.asciiText image.outcome.sink.accepted =
      String.join
        (image.printed.map fun value => toString value.toNat ++ "\n") := by
  have nothing : Sink.unlimited.accepted = [] := rfl
  rw [outcome, @Machine.accepted_run image.loaded Sink.unlimited rfl rfl, nothing,
    List.nil_append, Evaluation.asciiText_flatMap_decimalLine, printed]

end Image

/-- How a session ends by what its run leads to. -/
def Ending.ofResult : Except Fault State → Ending
  | .error fault => .failed (.fault fault)
  | .ok _ => .succeeded

namespace Session

theorem decimal_eq_toString (number : Nat) :
    decimal number = toString number :=
  Numeral.ofList_write_ten number

/-- What is shown behind the notices of a run, by what the run leads to. -/
def closing
    (console : Console)
    (path : String) :
    Except Fault State →
    String
  | .error _ => ""
  | .ok state =>
      endingMessage console state ++ fileMessage console "Completed" path

/-- What comes of a session that runs an image. -/
theorem runImage_eq
    (console : Console)
    (tracing : Bool)
    (path : String)
    (image : Image) :
    runImage console tracing path image =
      { output :=
          String.join
            (image.printed.map fun value => toString value.toNat ++ "\n")
        diagnostics :=
          fileMessage console "Loading" path ++
            console.message .green "Running"
              (decimal image.length ++ " byte image") ++
            console.notices (image.notices tracing) ++
            closing console path image.outcome.result
        ending := Ending.ofResult image.outcome.result } := by
  obtain ⟨result, sink, notices⟩ := image.run_setTracing_loaded tracing
  rw [runImage, image.load_initial, ← image.asciiText_accepted_outcome]
  simp only [result, sink, notices]
  cases image.outcome.result with
  | error fault =>
      simp [closing, Ending.ofResult]
  | ok state =>
      simp [closing, Ending.ofResult, String.append_assoc]

section Load

variable
  {read : String → Except ReadError (List UInt8)}
  {path : String}

/-- A run of what does not load fails with the load error. -/
theorem run_of_load_eq_error
    {error : Image.LoadError}
    (refused : Image.load read path = .error error)
    (environment : Environment)
    (flags : List Flag) :
    run read environment path flags =
      { output := ""
        diagnostics :=
          fileMessage ⟨environment.forcesColor, flags.contains .minimal⟩
            "Loading" path
        ending := .failed (.load error) } := by
  rw [run, refused]

theorem run_of_load_eq_ok
    {image : Image}
    (loaded : Image.load read path = .ok image)
    (environment : Environment)
    (flags : List Flag) :
    run read environment path flags =
      runImage ⟨environment.forcesColor, flags.contains .minimal⟩
        (flags.contains .trace || environment.settings.tracing) path image := by
  rw [run, loaded]

/-- The output of a run is the lines of the values that the image prints. -/
theorem output_run
    {image : Image}
    (loaded : Image.load read path = .ok image)
    (environment : Environment)
    (flags : List Flag) :
    (run read environment path flags).output =
      String.join
        (image.printed.map fun value => toString value.toNat ++ "\n") := by
  rw [run_of_load_eq_ok loaded, runImage_eq]

/-- A run ends by what the machine comes to. -/
theorem ending_run
    {image : Image}
    (loaded : Image.load read path = .ok image)
    (environment : Environment)
    (flags : List Flag) :
    (run read environment path flags).ending =
      Ending.ofResult image.outcome.result := by
  rw [run_of_load_eq_ok loaded, runImage_eq]

end Load

end Session

end EightBit
