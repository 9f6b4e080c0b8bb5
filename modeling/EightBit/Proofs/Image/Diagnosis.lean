import EightBit.Proofs.Image.Grammar
import EightBit.Proofs.Text.Span

namespace EightBit.Image

/-!
# Where source text is at fault

A text with a literal that stands for no byte is reported with one label. The
label is on the first line whose literal is at fault: on the first character of
the literal that is no binary digit, or on the whole literal where there is no
such character. Bytes are counted from the start of the text, across whatever
the lines in front hold.
-/

/-- A stretch that is placed within the literal of a line marks a part of it. -/
theorem marks_part_of_literal
    {source : String}
    {earlier later : List (List Char)}
    {line before marked behind : List Char}
    {span : Span}
    (split : source.toList.splitOn '\n' = earlier ++ line :: later)
    (literal : Grammar.literal line = before ++ marked ++ behind)
    (offset : span.offset = Text.byteLength before)
    (length : span.length = Text.byteLength marked) :
    (span.shift
      (Text.byteLength
        (earlier.flatMap (· ++ ['\n']) ++ indentationOf line))).Marks source
      (earlier.flatMap (· ++ ['\n']) ++ indentationOf line ++ before)
      marked := by
  obtain ⟨rest, whole, -⟩ := Text.exists_behind_of_splitOn split
  obtain ⟨trailing, comment, parts, -⟩ := exists_line_parts line
  refine ⟨⟨behind ++ trailing ++ comment ++ rest, ?_⟩, ?_, length⟩
  · rw [parts, literal] at whole
    rw [whole]
    simp only [List.append_assoc]
  · rw [Text.byteLength_append _ before, ← offset]
    rfl

/--
A stretch is one character of a line that begins at the end of some text. It is
no binary digit, and in front of it on the line are blanks and binary digits.
-/
def PointsAtBadDigit
    (span : Span)
    (source : String)
    (start line : List Char) :
    Prop :=
  ∃ blanks digits character rest,
    line = blanks ++ digits ++ character :: rest ∧
      (∀ blank ∈ blanks, blank ∈ Text.whiteSpace) ∧
        IsBinary digits ∧
          (character ≠ '0' ∧ character ≠ '1') ∧
            '#' ∉ blanks ++ digits ++ [character] ∧
              span.Marks source (start ++ blanks ++ digits) [character] ∧
                span.bytesIn source = String.utf8EncodeChar character

/--
A stretch is the literal of a line that begins at the end of some text. It is
more than eight binary digits, with blanks around it up to the comment.
-/
def PointsAtWideLiteral
    (span : Span)
    (source : String)
    (start line : List Char) :
    Prop :=
  ∃ blanks literal trailing comment,
    line = blanks ++ literal ++ trailing ++ comment ∧
      (∀ blank ∈ blanks, blank ∈ Text.whiteSpace) ∧
        literal = Grammar.literal line ∧
          9 ≤ literal.length ∧
            IsBinary literal ∧
              (∀ blank ∈ trailing, blank ∈ Text.whiteSpace) ∧
                (comment = [] ∨ ∃ rest, comment = '#' :: rest) ∧
                  span.Marks source (start ++ blanks) literal ∧
                    span.bytesIn source = Text.characterBytes literal

theorem PointsAtBadDigit.exists_marks
    {span : Span}
    {source : String}
    {start line : List Char}
    (points : PointsAtBadDigit span source start line) :
    ∃ before marked, span.Marks source before marked := by
  obtain ⟨blanks, digits, character, rest, -, -, -, -, -, marks, -⟩ := points
  exact ⟨_, _, marks⟩

theorem PointsAtWideLiteral.exists_marks
    {span : Span}
    {source : String}
    {start line : List Char}
    (points : PointsAtWideLiteral span source start line) :
    ∃ before marked, span.Marks source before marked := by
  obtain ⟨blanks, literal, trailing, comment, -, -, -, -, -, -, -, marks, -⟩ :=
    points
  exact ⟨_, _, marks⟩

/-- A misreading of a literal for one of its characters points at that one. -/
theorem pointsAtBadDigit
    {source : String}
    {earlier later : List (List Char)}
    {line digits rest : List Char}
    {character : Char}
    (split : source.toList.splitOn '\n' = earlier ++ line :: later)
    (literal : Grammar.literal line = digits ++ character :: rest)
    (binary : IsBinary digits)
    (noDigit : character ≠ '0' ∧ character ≠ '1') :
    PointsAtBadDigit
      ((Misreading.badDigit digits character).shift
        (Text.byteLength
          (earlier.flatMap (· ++ ['\n']) ++ indentationOf line))).span
      source (earlier.flatMap (· ++ ['\n'])) line := by
  obtain ⟨trailing, comment, parts, blanks, -, noComment, -⟩ :=
    exists_line_parts line
  have marks :=
    @marks_part_of_literal _ _ _ _ _ [character] rest
      (Misreading.badDigit digits character).span split (by simp [literal])
      rfl rfl
  refine ⟨indentationOf line, digits, character, rest ++ trailing ++ comment,
    ?_, blanks, binary, noDigit, ?_, marks, ?_⟩
  · rw [literal] at parts
    simpa only [List.append_assoc, List.cons_append] using parts
  · rw [literal] at noComment
    intro member
    apply noComment
    simp only [List.mem_append, List.mem_cons] at member ⊢
    tauto
  · have bytes := marks.bytesIn_eq
    rwa [Text.characterBytes_cons, Text.characterBytes_nil,
      List.append_nil] at bytes

/-- A misreading of a literal for its length points at all of it. -/
theorem pointsAtWideLiteral
    {source : String}
    {earlier later : List (List Char)}
    {line : List Char}
    (split : source.toList.splitOn '\n' = earlier ++ line :: later)
    (binary : IsBinary (Grammar.literal line))
    (wide : 8 < (Grammar.literal line).length) :
    PointsAtWideLiteral
      ((Misreading.tooWide (Grammar.literal line)).shift
        (Text.byteLength
          (earlier.flatMap (· ++ ['\n']) ++ indentationOf line))).span
      source (earlier.flatMap (· ++ ['\n'])) line := by
  obtain ⟨trailing, comment, parts, blanks, trailingBlank, -, ending⟩ :=
    exists_line_parts line
  have marks :=
    @marks_part_of_literal _ _ _ _ [] (Grammar.literal line) []
      (Misreading.tooWide (Grammar.literal line)).span split (by simp) rfl rfl
  rw [List.append_nil] at marks
  exact ⟨indentationOf line, Grammar.literal line, trailing, comment, parts,
    blanks, rfl, wide, binary, trailingBlank, ending, marks, marks.bytesIn_eq⟩

theorem code_tooLarge (length : Nat) :
    (Error.tooLarge length).report.code = some "load::too_large" :=
  rfl

theorem code_badDigit
    (digits : List Char)
    (character : Char)
    (bytes : Nat) :
    (Error.misread
      ((Misreading.badDigit digits character).shift bytes)).report.code =
      some "load::bad_digit" :=
  rfl

theorem code_tooWide
    (literal : List Char)
    (bytes : Nat) :
    (Error.misread
      ((Misreading.tooWide literal).shift bytes)).report.code =
      some "load::too_wide" :=
  rfl

/-- A misread literal is reported with one label, where it stands in the text. -/
theorem parse_label_points_at_fault
    {source : String}
    {error : Error}
    (failed : parse source = .error error)
    (kind :
      error.report.code = some "load::bad_digit" ∨
        error.report.code = some "load::too_wide") :
    ∃ label earlier line later,
      error.report.labels = [label] ∧
      source.toList.splitOn '\n' = earlier ++ line :: later ∧
      (∀ other ∈ earlier, Grammar.IsValidLine other) ∧
      label.span.offset + label.span.length ≤ (Text.encode source).length ∧
      String.Pos.Raw.IsValid source ⟨label.span.offset⟩ ∧
      String.Pos.Raw.IsValid source
        ⟨label.span.offset + label.span.length⟩ ∧
      (error.report.code = some "load::bad_digit" →
        PointsAtBadDigit label.span source
          (earlier.flatMap (· ++ ['\n'])) line) ∧
      (error.report.code = some "load::too_wide" →
        PointsAtWideLiteral label.span source
          (earlier.flatMap (· ++ ['\n'])) line) := by
  have parses := parses_parse source
  rw [failed] at parses
  cases parses with
  | tooLarge valid large =>
      rw [code_tooLarge] at kind
      exact absurd kind (by decide)
  | @misread earlier later line misreading split earlierValid misread =>
      generalize literalEq : Grammar.literal line = literal at misread
      cases misread with
      | badDigit binary noDigit =>
          have points := pointsAtBadDigit split literalEq binary noDigit
          obtain ⟨before, marked, marks⟩ := points.exists_marks
          refine ⟨_, earlier, line, later, rfl, split, earlierValid,
            marks.end_le, marks.isValid_offset, marks.isValid_end, ?_, ?_⟩
          · intro _
            exact points
          · intro tooWide
            rw [code_badDigit] at tooWide
            exact absurd tooWide (by decide)
      | tooWide binary wide =>
          subst literalEq
          have points := pointsAtWideLiteral split binary wide
          obtain ⟨before, marked, marks⟩ := points.exists_marks
          refine ⟨_, earlier, line, later, rfl, split, earlierValid,
            marks.end_le, marks.isValid_offset, marks.isValid_end, ?_, ?_⟩
          · intro badDigit
            rw [code_tooWide] at badDigit
            exact absurd badDigit (by decide)
          · intro _
            exact points

/--
The comment and the blank in front of the literal have characters of more than
one byte; the label is on the digit two.
-/
theorem parse_label_points_at_fault_behind_comment :
    parse "#é\r\n\u30001021 # x" =
        .error (.misread ⟨.badDigit, ⟨10, 1⟩⟩) ∧
      ∃ label earlier line later,
        (Error.misread ⟨.badDigit, ⟨10, 1⟩⟩).report.labels = [label] ∧
          "#é\r\n\u30001021 # x".toList.splitOn '\n' =
              earlier ++ line :: later ∧
            PointsAtBadDigit label.span "#é\r\n\u30001021 # x"
              (earlier.flatMap (· ++ ['\n'])) line := by
  have failed :
      parse "#é\r\n\u30001021 # x" =
        .error (.misread ⟨.badDigit, ⟨10, 1⟩⟩) := by
    decide +kernel
  obtain ⟨label, earlier, line, later, labels, split, -, -, -, -, points, -⟩ :=
    parse_label_points_at_fault failed (Or.inl rfl)
  exact ⟨failed, label, earlier, line, later, labels, split, points rfl⟩

end EightBit.Image
