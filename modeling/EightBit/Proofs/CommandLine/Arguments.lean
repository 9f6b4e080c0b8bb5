import EightBit.CommandLine.Request

namespace EightBit

/-!
# Command lines

Where a command is given one argument and takes it as its path, the argument is a
word, and nothing else makes it one: flags give no path. Such an argument stays the
path of the command when flags are given behind it.
-/

/-- A text that is taken as a path wherever there is room for one. -/
structure IsPathArgument (text : String) : Prop where
  word : Argument.ofText text = .word text
  nonempty : text.isEmpty = false

theorem Argument.eq_of_ofText_eq_word
    {text word : String}
    (isWord : ofText text = .word word) :
    word = text := by
  unfold ofText at isWord
  split at isWord
  case h_4 =>
    exact (Argument.word.inj isWord).symm
  all_goals cases isWord

namespace CommandArguments

variable
  {allowed : List Flag}
  {given extended : CommandArguments}

theorem path?_of_addFlag
    {flag : Flag}
    (added : given.addFlag allowed flag = .ok extended) :
    extended.path? = given.path? := by
  unfold addFlag at added
  split at added
  · split at added
    · cases added
    · cases added
      rfl
  · cases added

theorem path?_of_addFlag?
    {flag? : Option Flag}
    (added : given.addFlag? allowed flag? = .ok extended) :
    extended.path? = given.path? := by
  cases flag? with
  | none =>
      cases added
  | some flag =>
      exact path?_of_addFlag added

theorem path?_of_addLetters
    {letters : List Char}
    (added : given.addLetters allowed letters = .ok extended) :
    extended.path? = given.path? := by
  induction letters generalizing given with
  | nil =>
      cases added
      rfl
  | cons letter rest inductionHypothesis =>
      unfold addLetters at added
      split at added
      · cases added
      · rename_i between addedFirst
        exact
          (inductionHypothesis added).trans (path?_of_addFlag? addedFirst)

/-- A single argument that gives a path is that path. -/
theorem isPathArgument_of_read
    {text path : String}
    (read : CommandArguments.none.read allowed [text] = .ok given)
    (taken : given.path? = some path) :
    IsPathArgument text ∧ path = text := by
  have noPath : CommandArguments.none.path? ≠ some path := by
    simp [CommandArguments.none]
  unfold CommandArguments.read at read
  cases form : Argument.ofText text with
  | separator =>
      simp only [form, addWords] at read
      cases read
      exact (noPath taken).elim
  | long name =>
      simp only [form, addArgument] at read
      split at read
      · cases read
      · rename_i added
        cases read
        exact (noPath ((path?_of_addFlag? added).symm.trans taken)).elim
  | short letters =>
      simp only [form, addArgument] at read
      split at read
      · cases read
      · rename_i added
        cases read
        exact (noPath ((path?_of_addLetters added).symm.trans taken)).elim
  | word other =>
      obtain rfl := Argument.eq_of_ofText_eq_word form
      simp only [form, addArgument, addWord, CommandArguments.none,
        Option.isSome_none, Bool.or_false] at read
      split at read
      · cases read
      · rename_i added
        cases read
        split at added
        · cases added
        · rename_i nonempty
          cases added
          exact
            ⟨⟨form, Bool.eq_false_iff.mpr nonempty⟩,
              (Option.some.inj taken).symm⟩

/-- A path in front of other arguments is taken before they are read. -/
theorem read_cons_of_isPathArgument
    {path : String}
    (isPath : IsPathArgument path)
    (rest : List String) :
    CommandArguments.none.read allowed (path :: rest) =
      CommandArguments.read allowed ⟨some path, []⟩ rest := by
  simp [CommandArguments.read, isPath.word, addArgument, addWord,
    isPath.nonempty, CommandArguments.none]

end CommandArguments

namespace Request

/-- The flags of a run, written out. -/
def flagArguments (trace minimal : Bool) : List String :=
  (if trace then ["--trace"] else []) ++
    (if minimal then ["--minimal"] else [])

/--
The ways to ask for a run of a path with any of its flags. A path of which a run can
be asked for takes them behind it; any path at all takes them in front of a separator.
-/
inductive AsksToRun (path : String) : (Bool → Bool → List String) → Prop where
  | flagsBehind
      (accepted : ofArguments ["run", path] = some (.run path [])) :
      AsksToRun path fun trace minimal =>
        "run" :: path :: flagArguments trace minimal
  | flagsInFront
      (nonempty : path.isEmpty = false) :
      AsksToRun path fun trace minimal =>
        "run" :: (flagArguments trace minimal ++ ["--", path])

/-- The flags that are raised by arguments that ask for a run. -/
def runFlags (trace minimal : Bool) : List Flag :=
  (if minimal then [Flag.minimal] else []) ++
    (if trace then [Flag.trace] else [])

theorem contains_trace_runFlags (trace minimal : Bool) :
    (runFlags trace minimal).contains .trace = trace := by
  cases trace <;> cases minimal <;> rfl

theorem contains_minimal_runFlags (trace minimal : Bool) :
    (runFlags trace minimal).contains .minimal = minimal := by
  cases trace <;> cases minimal <;> rfl

theorem ofArguments_run (arguments : List String) :
    ofArguments ("run" :: arguments) =
      ofFlagged .run ofRunArguments arguments := by
  rfl

/-- A path of which a run can be asked for is taken as a path everywhere. -/
theorem isPathArgument_of_run
    {text path : String}
    {flags : List Flag}
    (accepted : ofArguments ["run", text] = some (.run path flags)) :
    IsPathArgument text ∧ path = text := by
  rw [ofArguments_run, ofFlagged] at accepted
  split at accepted
  · rename_i given read
    obtain ⟨taken, named, request⟩ := Option.map_eq_some_iff.mp accepted
    cases request
    exact CommandArguments.isPathArgument_of_read read named
  · cases accepted
  · cases accepted

/-- Flags that are written out are raised, whether the path is taken or not. -/
theorem read_flagArguments
    (path? : Option String)
    (trace minimal : Bool)
    (rest : List String) :
    CommandArguments.read Command.run.flags ⟨path?, []⟩
        (flagArguments trace minimal ++ rest) =
      CommandArguments.read Command.run.flags
        ⟨path?, runFlags trace minimal⟩ rest := by
  cases trace <;> cases minimal <;> rfl

theorem ofArguments_of_asksToRun
    {path : String}
    {arguments : Bool → Bool → List String}
    (asks : AsksToRun path arguments)
    (trace minimal : Bool) :
    ofArguments (arguments trace minimal) =
      some (.run path (runFlags trace minimal)) := by
  cases asks with
  | flagsBehind accepted =>
      have isPath := (isPathArgument_of_run accepted).1
      have read :
          CommandArguments.none.read Command.run.flags
              (path :: flagArguments trace minimal) =
            .ok ⟨some path, runFlags trace minimal⟩ := by
        rw [CommandArguments.read_cons_of_isPathArgument isPath,
          ← List.append_nil (flagArguments trace minimal), read_flagArguments,
          CommandArguments.read]
      simp only
      rw [ofArguments_run, ofFlagged, read]
      rfl
  | flagsInFront nonempty =>
      have read :
          CommandArguments.none.read Command.run.flags
              (flagArguments trace minimal ++ ["--", path]) =
            .ok ⟨some path, runFlags trace minimal⟩ := by
        rw [CommandArguments.none, read_flagArguments]
        change CommandArguments.addWords _ [path] = _
        simp [CommandArguments.addWords, CommandArguments.addWord, nonempty]
      simp only
      rw [ofArguments_run, ofFlagged, read]
      rfl

end Request

end EightBit
