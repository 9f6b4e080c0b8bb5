import EightBit.Console.Operation

namespace EightBit

/-!
# What coloring adds

A console with colors and one without are put through the same operations. Whatever
the first shows is what the second shows with escape sequences in it, each of which
starts a color that is reset in the same text. In minimal mode there are none. A verb
is aligned by its characters, so that escape sequences and bytes do not count.
-/

namespace Style

/-- A text without the escape sequences that start a color or reset it. -/
def erase : List Char → List Char
  | '\x1b' :: '[' :: '0' :: 'm' :: rest => erase rest
  | '\x1b' :: '[' :: '3' :: '1' :: 'm' :: rest => erase rest
  | '\x1b' :: '[' :: '3' :: '2' :: 'm' :: rest => erase rest
  | '\x1b' :: '[' :: '3' :: '3' :: 'm' :: rest => erase rest
  | '\x1b' :: '[' :: '3' :: '6' :: 'm' :: rest => erase rest
  | character :: rest => character :: erase rest
  | [] => []

/--
A text in which escape sequences come in pairs: one starts a color, and the next
resets it.
-/
inductive IsPaired : List Char → Prop where
  | nil :
      IsPaired []
  | plain
      {character : Char}
      {rest : List Char}
      (noEscape : character ≠ '\x1b')
      (paired : IsPaired rest) :
      IsPaired (character :: rest)
  | styled
      (color : Color)
      {inner rest : List Char}
      (noEscape : '\x1b' ∉ inner)
      (paired : IsPaired rest) :
      IsPaired (start color.parameter ++ inner ++ reset ++ rest)

theorem erase_cons
    {character : Char}
    (noEscape : character ≠ '\x1b')
    (rest : List Char) :
    erase (character :: rest) = character :: erase rest := by
  rw [erase] <;> simp_all

theorem erase_append_of_not_mem
    {text : List Char}
    (plain : '\x1b' ∉ text)
    (rest : List Char) :
    erase (text ++ rest) = text ++ erase rest := by
  induction text with
  | nil =>
      rfl
  | cons character others inductionHypothesis =>
      obtain ⟨other, othersPlain⟩ := not_or.mp (mt List.mem_cons.mpr plain)
      rw [List.cons_append, erase_cons (Ne.symm other),
        inductionHypothesis othersPlain, List.cons_append]

theorem erase_of_not_mem
    {text : List Char}
    (plain : '\x1b' ∉ text) :
    erase text = text := by
  have whole := erase_append_of_not_mem plain []
  rwa [List.append_nil, erase, List.append_nil] at whole

/-- What is erased of a colored text is the color. -/
theorem erase_styled
    (color : Color)
    {inner : List Char}
    (plain : '\x1b' ∉ inner)
    (rest : List Char) :
    erase (start color.parameter ++ inner ++ reset ++ rest) =
      inner ++ erase rest := by
  have started :
      ∀ text, erase (start color.parameter ++ text) = erase text := by
    intro text
    cases color <;> rfl
  have resetting : erase (reset ++ rest) = erase rest := rfl
  rw [List.append_assoc, List.append_assoc, started,
    erase_append_of_not_mem plain, resetting]

theorem isPaired_append_of_not_mem
    {text rest : List Char}
    (plain : '\x1b' ∉ text)
    (paired : IsPaired rest) :
    IsPaired (text ++ rest) := by
  induction text with
  | nil =>
      exact paired
  | cons character others inductionHypothesis =>
      obtain ⟨other, othersPlain⟩ := not_or.mp (mt List.mem_cons.mpr plain)
      exact .plain (Ne.symm other) (inductionHypothesis othersPlain)

theorem isPaired_of_not_mem
    {text : List Char}
    (plain : '\x1b' ∉ text) :
    IsPaired text := by
  have whole := isPaired_append_of_not_mem plain .nil
  rwa [List.append_nil] at whole

theorem escape_not_mem_alignRight
    {text : List Char}
    (plain : '\x1b' ∉ text)
    (width : Nat) :
    '\x1b' ∉ alignRight width text := by
  intro member
  rcases List.mem_append.mp member with isFilling | inText
  · exact absurd (List.eq_of_mem_replicate isFilling) (by decide)
  · exact plain inText

/-- A plain text is painted without a restart: the color stays to its end. -/
theorem paint_of_not_mem
    {text : List Char}
    (plain : '\x1b' ∉ text)
    (parameters : String)
    (width : Nat) :
    paint parameters width text =
      start parameters ++ alignRight width text ++ reset := by
  rw [paint, restart_of_not_mem _ plain]

end Style

namespace Console

/-- No text of an operation starts an escape sequence. -/
def Operation.IsPlain : Operation → Prop
  | .setMinimal _ => True
  | .isMinimal => True
  | .status text => '\x1b' ∉ text.toList
  | .diagnostic text => '\x1b' ∉ text.toList
  | .diagnosticLine text => '\x1b' ∉ text.toList
  | .message _ verb subject =>
      '\x1b' ∉ verb.toList ∧ '\x1b' ∉ subject.toList

/-- Whether minimal mode is on behind operations, as the last of them to set it says. -/
def minimalAfter : Bool → List Operation → Bool
  | minimal, [] => minimal
  | _, .setMinimal minimal :: rest => minimalAfter minimal rest
  | minimal, _ :: rest => minimalAfter minimal rest

/-- A verb with as many blanks in front as it is short of twelve characters. -/
def alignedVerb (verb : String) : List Char :=
  List.replicate (12 - verb.length) ' ' ++ verb.toList

/-- What is shown of an operation in minimal mode: diagnostic text as it is. -/
def Operation.minimalText : Operation → String
  | .diagnostic text => text
  | .diagnosticLine text => text ++ "\n"
  | _ => ""

/--
What comes of an operation on a console with colors and on one without, where both
are in minimal mode or neither is.
-/
structure ShowsAlike
    (minimal : Bool)
    (operation : Operation)
    (inColor inPlain : Response) :
    Prop where
  returned : inColor.returned = inPlain.returned
  erased : Style.erase inColor.shown.toList = inPlain.shown.toList
  paired : Style.IsPaired inColor.shown.toList
  sameIfMinimal : minimal = true → inColor = inPlain
  shownIfMinimal : minimal = true → inPlain.shown = operation.minimalText
  /-- The blanks in front of a verb are inside of its color. -/
  alignedMessage :
    ∀ color verb subject,
      operation = .message color verb subject →
      minimal = false →
        inPlain.shown.toList =
            alignedVerb verb ++ ' ' :: (subject.toList ++ ['\n']) ∧
          inColor.shown.toList =
            Style.start color.parameter ++ alignedVerb verb ++ Style.reset ++
              ' ' :: (subject.toList ++ ['\n'])

/-! ## One operation -/

/-- What is shown without color on both consoles is shown alike. -/
theorem ShowsAlike.of_same
    {minimal : Bool}
    {operation : Operation}
    {response : Response}
    (plain : '\x1b' ∉ response.shown.toList)
    (shown : minimal = true → response.shown = operation.minimalText)
    (noMessage :
      minimal = false →
        ∀ color verb subject, operation ≠ .message color verb subject) :
    ShowsAlike minimal operation response response where
  returned := rfl
  erased := Style.erase_of_not_mem plain
  paired := Style.isPaired_of_not_mem plain
  sameIfMinimal _ := rfl
  shownIfMinimal := shown
  alignedMessage color verb subject isMessage verbose :=
    (noMessage verbose color verb subject isMessage).elim

theorem paint_of_colored
    {text : String}
    (plain : '\x1b' ∉ text.toList)
    (minimal : Bool)
    (color : Color)
    (width : Nat) :
    ((Console.mk true minimal).paint color width text).toList =
      Style.start color.parameter ++ Style.alignRight width text.toList ++
        Style.reset := by
  rw [paint, if_pos rfl, String.toList_ofList, Style.paint_of_not_mem plain]

theorem paint_of_colorless
    (minimal : Bool)
    (color : Color)
    (width : Nat)
    (text : String) :
    ((Console.mk false minimal).paint color width text).toList =
      Style.alignRight width text.toList := by
  rw [paint, if_neg Bool.false_ne_true, String.toList_ofList]

/-- Out of minimal mode, a text in a color in front of a plain one is shown alike. -/
theorem ShowsAlike.of_styled
    {operation : Operation}
    {inColor inPlain : String}
    (color : Color)
    {inner rest : List Char}
    (innerPlain : '\x1b' ∉ inner)
    (restPlain : '\x1b' ∉ rest)
    (colored :
      inColor.toList =
        Style.start color.parameter ++ inner ++ Style.reset ++ rest)
    (colorless : inPlain.toList = inner ++ rest)
    (aligned :
      ∀ color verb subject,
        operation = .message color verb subject →
          inPlain.toList =
              alignedVerb verb ++ ' ' :: (subject.toList ++ ['\n']) ∧
            inColor.toList =
              Style.start color.parameter ++ alignedVerb verb ++ Style.reset ++
                ' ' :: (subject.toList ++ ['\n'])) :
    ShowsAlike false operation (.showing inColor) (.showing inPlain) where
  returned := rfl
  erased := by
    rw [Response.showing, Response.showing, colored, colorless,
      Style.erase_styled _ innerPlain, Style.erase_of_not_mem restPlain]
  paired := by
    rw [Response.showing, colored]
    exact .styled color innerPlain (Style.isPaired_of_not_mem restPlain)
  sameIfMinimal minimal := absurd minimal Bool.false_ne_true
  shownIfMinimal minimal := absurd minimal Bool.false_ne_true
  alignedMessage color verb subject isMessage _ :=
    aligned color verb subject isMessage

/-- Diagnostic text is shown alike, be it an operation of its own or a line. -/
theorem showsAlike_diagnostic
    {text : String}
    (plain : '\x1b' ∉ text.toList)
    (minimal : Bool)
    {operation : Operation}
    (minimalText : operation.minimalText = text)
    (noMessage :
      ∀ color verb subject, operation ≠ .message color verb subject) :
    ShowsAlike minimal operation
      (.showing ((Console.mk true minimal).diagnostic text))
      (.showing ((Console.mk false minimal).diagnostic text)) := by
  cases minimal with
  | true =>
      rw [diagnostic, if_pos rfl, diagnostic, if_pos rfl]
      exact .of_same plain (fun _ => minimalText.symm) (fun _ => noMessage)
  | false =>
      have unaligned : Style.alignRight 0 text.toList = text.toList := by
        simp [Style.alignRight]
      refine .of_styled .yellow plain List.not_mem_nil ?_ ?_ ?_
      · rw [diagnostic, if_neg Bool.false_ne_true, paint_of_colored plain,
          unaligned, List.append_nil]
      · rw [diagnostic, if_neg Bool.false_ne_true, paint_of_colorless,
          unaligned, List.append_nil]
      · intro color verb subject isMessage
        exact (noMessage color verb subject isMessage).elim

theorem alignRight_verbWidth (verb : String) :
    Style.alignRight verbWidth verb.toList = alignedVerb verb := by
  rw [Style.alignRight, verbWidth, alignedVerb, String.length_toList]

/-- A message is its painted verb, a blank, and its subject on the rest of the line. -/
theorem toList_message
    {console : Console}
    (verbose : console.minimal = false)
    (color : Color)
    (verb subject : String) :
    (console.message color verb subject).toList =
      (console.paint color verbWidth verb).toList ++
        ' ' :: (subject.toList ++ ['\n']) := by
  rw [message, status, verbose, if_neg Bool.false_ne_true]
  simp

theorem showsAlike_message
    {verb subject : String}
    (verbPlain : '\x1b' ∉ verb.toList)
    (subjectPlain : '\x1b' ∉ subject.toList)
    (minimal : Bool)
    (color : Color) :
    ShowsAlike minimal (.message color verb subject)
      (.showing ((Console.mk true minimal).message color verb subject))
      (.showing ((Console.mk false minimal).message color verb subject)) := by
  cases minimal with
  | true =>
      have nothing : '\x1b' ∉ "".toList := List.not_mem_nil
      rw [message_of_minimal rfl, message_of_minimal rfl]
      exact .of_same nothing (fun _ => rfl) fun verbose => by cases verbose
  | false =>
      have colored :
          ((Console.mk true false).message color verb subject).toList =
            Style.start color.parameter ++ alignedVerb verb ++ Style.reset ++
              ' ' :: (subject.toList ++ ['\n']) := by
        rw [toList_message rfl, paint_of_colored verbPlain,
          alignRight_verbWidth]
      have colorless :
          ((Console.mk false false).message color verb subject).toList =
            alignedVerb verb ++ ' ' :: (subject.toList ++ ['\n']) := by
        rw [toList_message rfl, paint_of_colorless, alignRight_verbWidth]
      have alignedPlain : '\x1b' ∉ alignedVerb verb := by
        rw [← alignRight_verbWidth]
        exact Style.escape_not_mem_alignRight verbPlain verbWidth
      have behindPlain : '\x1b' ∉ ' ' :: (subject.toList ++ ['\n']) := by
        simp [subjectPlain]
      refine .of_styled color alignedPlain behindPlain colored colorless ?_
      rintro otherColor otherVerb otherSubject isMessage
      cases isMessage
      exact ⟨colorless, colored⟩

/-- An operation is shown alike by two consoles that differ in their colors. -/
theorem showsAlike_perform
    (minimal : Bool)
    {operation : Operation}
    (plain : operation.IsPlain) :
    ShowsAlike minimal operation
      ((Console.mk true minimal).perform operation).1
      ((Console.mk false minimal).perform operation).1 := by
  have nothing : '\x1b' ∉ "".toList := List.not_mem_nil
  cases operation with
  | setMinimal next =>
      exact .of_same nothing (fun _ => rfl) fun _ => by simp
  | isMinimal =>
      exact .of_same nothing (fun _ => rfl) fun _ => by simp
  | status text =>
      cases minimal with
      | true =>
          exact .of_same nothing (fun _ => rfl) fun verbose => by cases verbose
      | false =>
          exact .of_same plain (fun minimal => by cases minimal) fun _ => by simp
  | diagnostic text =>
      exact showsAlike_diagnostic plain minimal rfl (by simp)
  | diagnosticLine text =>
      have ended : '\x1b' ∉ (text ++ "\n").toList := by
        rw [String.toList_append, List.mem_append, not_or]
        exact ⟨plain, by decide⟩
      exact showsAlike_diagnostic ended minimal rfl (by simp)
  | message color verb subject =>
      exact showsAlike_message plain.1 plain.2 minimal color

/-! ## All operations -/

/-- Of what is done with a console, minimal mode stays and nothing else. -/
theorem after_eq
    (console : Console)
    (operations : List Operation) :
    console.after operations =
      ⟨console.colored, minimalAfter console.minimal operations⟩ := by
  induction operations generalizing console with
  | nil =>
      rfl
  | cons operation rest inductionHypothesis =>
      have next := inductionHypothesis (console.perform operation).2
      cases operation <;> exact next

/--
Behind any operations, in minimal mode or not, what comes of an operation in color is
what comes of it without, once the escape sequences are erased. They come in pairs. In
minimal mode there are none, diagnostic text is shown as it is, and status text and
messages are not shown. A verb is aligned to the right within twelve characters, in
color and without, and all of it is shown.
-/
theorem coloring_adds_escapes_only
    (minimal : Bool)
    (earlier : List Operation)
    {operation : Operation}
    (plain : operation.IsPlain) :
    ShowsAlike (minimalAfter minimal earlier) operation
      (((Console.mk true minimal).after earlier).perform operation).1
      (((Console.mk false minimal).after earlier).perform operation).1 := by
  rw [after_eq, after_eq]
  exact showsAlike_perform _ plain

/-- A verb of eleven characters, one of them of two bytes, gets one blank. -/
theorem coloring_adds_escapes_only_accented :
    (Operation.message .red "déchargé 11" "ok").IsPlain ∧
      Style.erase
          "\x1b[31m déchargé 11\x1b[0m ok\n".toList =
        " déchargé 11 ok\n".toList ∧
      ((((Console.mk true true).after [.setMinimal false]).perform
            (.message .red "déchargé 11" "ok")).1.shown =
          "\x1b[31m déchargé 11\x1b[0m ok\n" ∧
        (((Console.mk false true).after [.setMinimal false]).perform
            (.message .red "déchargé 11" "ok")).1.shown =
          " déchargé 11 ok\n") := by
  have plain : (Operation.message .red "déchargé 11" "ok").IsPlain := by
    constructor <;> decide
  have alike := coloring_adds_escapes_only true [.setMinimal false] plain
  obtain ⟨colorless, colored⟩ := alike.alignedMessage _ _ _ rfl rfl
  have shownInColor :
      _ = "\x1b[31m déchargé 11\x1b[0m ok\n" :=
    String.toList_inj.mp colored
  have shownPlain : _ = " déchargé 11 ok\n" :=
    String.toList_inj.mp colorless
  have erased := alike.erased
  rw [shownInColor, shownPlain] at erased
  exact ⟨plain, erased, shownInColor, shownPlain⟩

end Console

end EightBit
