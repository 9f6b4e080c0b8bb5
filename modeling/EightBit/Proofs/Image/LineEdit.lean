import EightBit.Proofs.Image.Grammar
import EightBit.Proofs.Text.Edit

namespace EightBit.Image

open Text (Edit)

/-!
# Edited lines

An edit of a line may change the blanks around a part of it and the comment behind that
part. What comes of the line stays, and what is misread of it are characters of the part
that is kept. So what comes of a text stays where each of its lines is edited like that,
and only the place of what is misread moves, with the characters themselves.
-/

/-! ## One line -/

theorem readLine_of_codePart_eq
    {first second : List Char}
    (same : codePart first = codePart second) :
    readLine first = readLine second := by
  rw [readLine, readLine, literalOf, literalOf, indentationOf, indentationOf, same]

/-- A comment behind a line does not count. -/
theorem readLine_append_comment (line comment : List Char) :
    readLine (line ++ '#' :: comment) = readLine line := by
  apply readLine_of_codePart_eq
  rw [codePart, codePart, List.takeWhile_append]
  split
  · rename_i noComment
    have whole : line.takeWhile (· ≠ '#') = line :=
      (List.takeWhile_prefix _).eq_of_length noComment
    rw [whole]
    simp
  · rfl

/-- Blanks behind a line do not count. -/
theorem readLine_append_blanks
    {trailing : List Char}
    (blank : ∀ character ∈ trailing, Text.isBlank character)
    (line : List Char) :
    readLine (line ++ trailing) = readLine line := by
  induction trailing generalizing line with
  | nil =>
      rw [List.append_nil]
  | cons character rest inductionHypothesis =>
      obtain ⟨first, later⟩ := List.forall_mem_cons.mp blank
      rw [List.append_cons, inductionHypothesis later,
        readLine_append_blank first]

/-- Blanks in front of a line move what is misread and do not count otherwise. -/
theorem readLine_prepend_blanks
    {leading : List Char}
    (blank : ∀ character ∈ leading, Text.isBlank character)
    (line : List Char) :
    readLine (leading ++ line) =
      (readLine line).mapError (·.shift (Text.byteLength leading)) := by
  have code : codePart (leading ++ line) = leading ++ codePart line := by
    rw [codePart, List.takeWhile_append_of_pos]
    · rfl
    · intro character member
      simpa using ne_comment_of_isBlank (blank character member)
  have literal : literalOf (leading ++ line) = literalOf line := by
    rw [literalOf, code, Text.trimStart, List.dropWhile_append_of_pos blank]
    rfl
  have indentation :
      indentationOf (leading ++ line) = leading ++ indentationOf line := by
    rw [indentationOf, code, Text.indentation,
      List.takeWhile_append_of_pos blank]
    rfl
  rw [readLine, readLine, literal, indentation]
  split
  · rfl
  · cases readLiteral (literalOf line) with
    | ok byte =>
        rfl
    | error misreading =>
        simp [Except.mapError, Misreading.shift_shift]

/-- The misreading of some characters that stand behind others. -/
def Misreading.ofCharacters
    (defect : Defect)
    (before marked : List Char) :
    Misreading where
  defect := defect
  span := ⟨Text.byteLength before, Text.byteLength marked⟩

@[simp] theorem Misreading.shift_ofCharacters
    (defect : Defect)
    (front before marked : List Char) :
    (ofCharacters defect before marked).shift (Text.byteLength front) =
      ofCharacters defect (front ++ before) marked := by
  simp [ofCharacters, shift, Span.shift]

theorem Misreading.shift_ofCharacters_line
    (defect : Defect)
    (line before marked : List Char) :
    (ofCharacters defect before marked).shift
        (Text.byteLength (line ++ ['\n'])) =
      ofCharacters defect (line ++ '\n' :: before) marked := by
  rw [shift_ofCharacters, List.append_assoc, List.singleton_append]

/-- What is misread of a literal is some characters of it. -/
theorem Misread.exists_ofCharacters
    {literal : List Char}
    {misreading : Misreading}
    (misread : Misread literal misreading) :
    ∃ defect before marked behind,
      misreading = .ofCharacters defect before marked ∧
        literal = before ++ marked ++ behind ∧
          marked ≠ [] := by
  cases misread with
  | @badDigit digits rest character binary noDigit =>
      exact ⟨_, digits, [character], rest, rfl, by simp, by simp⟩
  | @tooWide literal binary wide =>
      refine ⟨_, [], literal, [], rfl, by simp, ?_⟩
      exact List.length_pos_iff.mp (Nat.zero_lt_of_lt wide)

/-- What is misread of a line is some characters of it. -/
theorem exists_ofCharacters_of_readLine
    {line : List Char}
    {misreading : Misreading}
    (failed : readLine line = .error misreading) :
    ∃ defect before marked behind,
      misreading = .ofCharacters defect before marked ∧
        line = before ++ marked ++ behind ∧
          marked ≠ [] := by
  have reading := readsLine_readLine line
  rw [failed] at reading
  cases reading with
  | misread misread =>
      obtain ⟨trailing, comment, parts, -⟩ := exists_line_parts line
      obtain ⟨defect, before, marked, behind, rfl, literal, nonempty⟩ :=
        misread.exists_ofCharacters
      rw [literal] at parts
      refine
        ⟨defect, indentationOf line ++ before, marked,
          behind ++ trailing ++ comment, ?_, ?_, nonempty⟩
      · exact Misreading.shift_ofCharacters _ _ _ _
      · simpa only [List.append_assoc] using parts

/-! ## Edited lines -/

/-- Blanks that end no line. -/
def AreBlanks (text : List Char) : Prop :=
  ∀ character ∈ text, character ∈ Text.whiteSpace ∧ character ≠ '\n'

/-- A comment up to the end of its line, or none. -/
def IsComment (text : List Char) : Prop :=
  (text = [] ∨ ∃ rest, text = '#' :: rest) ∧ '\n' ∉ text

/--
An edit of one line that keeps a part of it and may change the blanks around that part
and the comment behind it.
-/
structure LineEdit where
  leading : Edit
  code : List Char
  trailing : Edit
  comment : Edit
  leadingBlank : AreBlanks leading.original ∧ AreBlanks leading.edited
  noLineFeed : '\n' ∉ code
  trailingBlank : AreBlanks trailing.original ∧ AreBlanks trailing.edited
  commentIsComment : IsComment comment.original ∧ IsComment comment.edited

theorem areBlanks_nil : AreBlanks [] :=
  List.forall_mem_nil _

theorem isComment_nil : IsComment [] :=
  ⟨.inl rfl, List.not_mem_nil⟩

theorem AreBlanks.isBlank
    {text : List Char}
    (blanks : AreBlanks text) :
    ∀ character ∈ text, Text.isBlank character :=
  fun character member => Text.isBlank_iff.mpr (blanks character member).1

theorem AreBlanks.noLineFeed
    {text : List Char}
    (blanks : AreBlanks text) :
    '\n' ∉ text :=
  fun member => (blanks '\n' member).2 rfl

theorem AreBlanks.append
    {first second : List Char}
    (firstBlanks : AreBlanks first)
    (secondBlanks : AreBlanks second) :
    AreBlanks (first ++ second) :=
  List.forall_mem_append.mpr ⟨firstBlanks, secondBlanks⟩

/-- What comes of a line is what comes of its code, further back by the blanks. -/
theorem readLine_laidOut
    {leading code trailing comment : List Char}
    (leadingBlank : AreBlanks leading)
    (trailingBlank : AreBlanks trailing)
    (isComment : IsComment comment) :
    readLine (leading ++ code ++ trailing ++ comment) =
      (readLine code).mapError (·.shift (Text.byteLength leading)) := by
  have uncommented :
      readLine (leading ++ code ++ trailing ++ comment) =
        readLine (leading ++ code ++ trailing) := by
    rcases isComment.1 with rfl | ⟨rest, rfl⟩
    · rw [List.append_nil]
    · exact readLine_append_comment _ _
  rw [uncommented, readLine_append_blanks trailingBlank.isBlank,
    readLine_prepend_blanks leadingBlank.isBlank]

namespace LineEdit

/-- The edit of a line, piece by piece. -/
def edit (line : LineEdit) : Edit :=
  line.leading ++ Edit.keeping line.code ++ line.trailing ++ line.comment

/-- The edit that keeps a whole line. -/
def keeping
    (line : List Char)
    (noLineFeed : '\n' ∉ line) :
    LineEdit where
  leading := []
  code := line
  trailing := []
  comment := []
  leadingBlank := ⟨areBlanks_nil, areBlanks_nil⟩
  noLineFeed := noLineFeed
  trailingBlank := ⟨areBlanks_nil, areBlanks_nil⟩
  commentIsComment := ⟨isComment_nil, isComment_nil⟩

theorem lineFeed_not_mem_original (line : LineEdit) :
    '\n' ∉ line.edit.original := by
  simp [edit, line.leadingBlank.1.noLineFeed, line.noLineFeed,
    line.trailingBlank.1.noLineFeed, line.commentIsComment.1.2]

theorem lineFeed_not_mem_edited (line : LineEdit) :
    '\n' ∉ line.edit.edited := by
  simp [edit, line.leadingBlank.2.noLineFeed, line.noLineFeed,
    line.trailingBlank.2.noLineFeed, line.commentIsComment.2.2]

theorem readLine_original (line : LineEdit) :
    readLine line.edit.original =
      (readLine line.code).mapError
        (·.shift (Text.byteLength line.leading.original)) := by
  have laidOut :=
    @readLine_laidOut _ line.code _ _ line.leadingBlank.1 line.trailingBlank.1
      line.commentIsComment.1
  simpa only [edit, Edit.original_append, Edit.original_keeping] using laidOut

theorem readLine_edited (line : LineEdit) :
    readLine line.edit.edited =
      (readLine line.code).mapError
        (·.shift (Text.byteLength line.leading.edited)) := by
  have laidOut :=
    @readLine_laidOut _ line.code _ _ line.leadingBlank.2 line.trailingBlank.2
      line.commentIsComment.2
  simpa only [edit, Edit.edited_append, Edit.edited_keeping] using laidOut

end LineEdit

/--
What is read before an edit is read after it. What is misread are characters that the
edit keeps, and they are misread where they stand before the edit and after it.
-/
inductive ReadAlike
    {Value : Type}
    (read : List Char → Except Misreading Value)
    (edit : Edit) :
    Prop where
  | read
      {value : Value}
      (original : read edit.original = .ok value)
      (edited : read edit.edited = .ok value)
  | misread
      {before behind : Edit}
      {marked : List Char}
      (defect : Defect)
      (shape : edit = before ++ Edit.keeping marked ++ behind)
      (nonempty : marked ≠ [])
      (original :
        read edit.original =
          .error (.ofCharacters defect before.original marked))
      (edited :
        read edit.edited =
          .error (.ofCharacters defect before.edited marked))

theorem LineEdit.readAlike (line : LineEdit) :
    ReadAlike readLine line.edit := by
  have original := line.readLine_original
  have edited := line.readLine_edited
  cases reading : readLine line.code with
  | ok value =>
      rw [reading] at original edited
      exact .read original edited
  | error misreading =>
      rw [reading] at original edited
      -- What is misread is a part of the code, so the edit keeps it.
      obtain ⟨defect, before, marked, behind, rfl, shape, nonempty⟩ :=
        exists_ofCharacters_of_readLine reading
      have pieces :
          line.edit =
            line.leading ++ Edit.keeping before ++ Edit.keeping marked ++
              (Edit.keeping behind ++ line.trailing ++ line.comment) := by
        simp only [LineEdit.edit, shape, Edit.keeping_append,
          List.append_assoc]
      refine
        .misread defect pieces nonempty (original.trans ?_) (edited.trans ?_)
      · simp [Except.mapError]
      · simp [Except.mapError]

/-! ## Edited texts -/

/-- An edit of a text that edits each of its lines and keeps the line feeds. -/
inductive EditsLines : Edit → Prop where
  | last
      (line : LineEdit) :
      EditsLines line.edit
  | next
      (line : LineEdit)
      {rest : Edit}
      (editsRest : EditsLines rest) :
      EditsLines (line.edit ++ .kept '\n' :: rest)

theorem EditsLines.readAlike
    {edit : Edit}
    (edits : EditsLines edit) :
    ReadAlike readText edit := by
  induction edits with
  | last line =>
      have original := readText_of_not_mem line.lineFeed_not_mem_original
      have edited := readText_of_not_mem line.lineFeed_not_mem_edited
      cases line.readAlike with
      | read readOriginal readEdited =>
          rw [readOriginal] at original
          rw [readEdited] at edited
          exact .read original edited
      | misread defect shape nonempty readOriginal readEdited =>
          rw [readOriginal] at original
          rw [readEdited] at edited
          exact .misread defect shape nonempty original edited
  | @next line rest _ inductionHypothesis =>
      have original :=
        readText_append_lineFeed line.lineFeed_not_mem_original rest.original
      have edited :=
        readText_append_lineFeed line.lineFeed_not_mem_edited rest.edited
      rw [← Edit.original_append_kept] at original
      rw [← Edit.edited_append_kept] at edited
      -- A line that is misread is the last that is read; else the rest decides.
      cases line.readAlike with
      | @misread before behind marked defect shape nonempty readOriginal
          readEdited =>
          rw [readOriginal] at original
          rw [readEdited] at edited
          have pieces :
              line.edit ++ .kept '\n' :: rest =
                before ++ Edit.keeping marked ++
                  (behind ++ .kept '\n' :: rest) := by
            rw [shape]
            simp only [List.append_assoc]
          exact .misread defect pieces nonempty original edited
      | read readOriginal readEdited =>
          rw [readOriginal] at original
          rw [readEdited] at edited
          cases inductionHypothesis with
          | read restOriginal restEdited =>
              rw [restOriginal] at original
              rw [restEdited] at edited
              exact .read original edited
          | @misread before behind marked defect shape nonempty restOriginal
              restEdited =>
              rw [restOriginal] at original
              rw [restEdited] at edited
              have pieces :
                  line.edit ++ .kept '\n' :: rest =
                    (line.edit ++ .kept '\n' :: before) ++
                      Edit.keeping marked ++ behind := by
                rw [shape]
                simp only [List.append_assoc, List.cons_append]
              refine
                .misread defect pieces nonempty (original.trans ?_)
                  (edited.trans ?_)
              · rw [Edit.original_append_kept,
                  ← Misreading.shift_ofCharacters_line]
              · rw [Edit.edited_append_kept,
                  ← Misreading.shift_ofCharacters_line]

end EightBit.Image
