import EightBit.Proofs.Image.Concatenation
import EightBit.Proofs.Image.LineEdit
import EightBit.Proofs.Text.Span

namespace EightBit.Image

open Text (Edit)

/-!
# Edits of the layout

How a source text is laid out does not count: neither carriage returns at the ends of
its lines, nor comments, nor the blanks around what stands in front of them. An edit of
no more than that leaves the bytes of the text as they are. Where a literal is misread,
it is misread alike, and its label moves by the bytes that the edit adds in front of it.
-/

/-- What stands in front of a line: nothing, or lines with their line feeds. -/
def PrecedesLine (before : List Char) : Prop :=
  before = [] ∨ ∃ lines, before = lines ++ ['\n']

/-- What stands behind a line: nothing, or a line feed and any text. -/
def FollowsLine (behind : List Char) : Prop :=
  behind = [] ∨ ∃ rest, behind = '\n' :: rest

/-- The edit that puts a carriage return in front of every line feed. -/
def returning (text : List Char) : Edit :=
  text.flatMap fun character =>
    if character = '\n' then
      [.replaced [] ['\r'], .kept character]
    else
      [.kept character]

/--
An edit of the layout of a source text. Comments and blanks are changed at one place of
one line, where the old ones or the new ones may be none.
-/
inductive LayoutEdit (source : String) : Edit → Prop where
  | carriageReturns :
      LayoutEdit source (returning source.toList)
  | comment
      {before code old new behind : List Char}
      (text : source.toList = before ++ code ++ old ++ behind)
      (precedes : PrecedesLine before)
      (noComment : '#' ∉ code)
      (noLineFeed : '\n' ∉ code)
      (oldComment : IsComment old)
      (newComment : IsComment new)
      (follows : FollowsLine behind) :
      LayoutEdit source (Edit.replacing (before ++ code) old new behind)
  /-- Nothing but blanks is in front of the place, in a line with a literal or not. -/
  | blanksInFront
      {before leading old new rest behind : List Char}
      (text : source.toList = before ++ leading ++ old ++ rest ++ behind)
      (precedes : PrecedesLine before)
      (leadingBlanks : AreBlanks leading)
      (oldBlanks : AreBlanks old)
      (newBlanks : AreBlanks new)
      (noLineFeed : '\n' ∉ rest)
      (follows : FollowsLine behind) :
      LayoutEdit source
        (Edit.replacing (before ++ leading) old new (rest ++ behind))
  /-- Nothing but blanks is behind the place, up to the comment. -/
  | blanksBehind
      {before code old new trailing comment behind : List Char}
      (text :
        source.toList =
          before ++ code ++ old ++ trailing ++ comment ++ behind)
      (precedes : PrecedesLine before)
      (noComment : '#' ∉ code)
      (noLineFeed : '\n' ∉ code)
      (oldBlanks : AreBlanks old)
      (newBlanks : AreBlanks new)
      (trailingBlanks : AreBlanks trailing)
      (isComment : IsComment comment)
      (follows : FollowsLine behind) :
      LayoutEdit source
        (Edit.replacing (before ++ code) old new
          (trailing ++ comment ++ behind))

/--
A label is on some characters of a source text that an edit keeps, and moves with them,
by as many bytes as the edit adds in front of them.
-/
structure LabelMoves
    (source : String)
    (edit : Edit)
    (label moved : Label) :
    Prop where
  remark : moved.remark = label.remark
  place :
    ∃ before marked behind,
      edit = before ++ Edit.keeping marked ++ behind ∧
        marked ≠ [] ∧
          label.span.Marks source before.original marked ∧
            moved.span.Marks (String.ofList edit.edited) before.edited marked ∧
              (moved.span.offset : Int) = label.span.offset + before.added

/-- Two reports that differ in nothing but the places of their labels. -/
structure FailsAlike
    (source : String)
    (edit : Edit)
    (error moved : Error) :
    Prop where
  report : moved.report = { error.report with labels := moved.report.labels }
  labels :
    List.Forall₂ (LabelMoves source edit) error.report.labels
      moved.report.labels

/-- What comes of a source text before an edit comes of it after the edit. -/
structure KeepsOutcome (source : String) (edit : Edit) : Prop where
  original : edit.original = source.toList
  image :
    ∀ image,
      parse source = .ok image →
        parse (String.ofList edit.edited) = .ok image
  failure :
    ∀ error,
      parse source = .error error →
        ∃ moved,
          parse (String.ofList edit.edited) = .error moved ∧
            FailsAlike source edit error moved

/-! ## Edits by lines -/

theorem LineEdit.edit_keeping
    {line : List Char}
    (noLineFeed : '\n' ∉ line) :
    (LineEdit.keeping line noLineFeed).edit = Edit.keeping line := by
  simp [LineEdit.edit, LineEdit.keeping]

/-- An edit may keep a line in front of the lines that it edits. -/
theorem EditsLines.prepend_line
    {edit : Edit}
    (edits : EditsLines edit)
    {line : List Char}
    (noLineFeed : '\n' ∉ line) :
    EditsLines (Edit.keeping line ++ .kept '\n' :: edit) := by
  rw [← LineEdit.edit_keeping noLineFeed]
  exact .next _ edits

theorem editsLines_keeping (text : List Char) :
    EditsLines (Edit.keeping text) := by
  induction text using Text.line_induction with
  | last line noLineFeed =>
      rw [← LineEdit.edit_keeping noLineFeed]
      exact .last _
  | next line rest noLineFeed inductionHypothesis =>
      rw [Edit.keeping_append]
      exact inductionHypothesis.prepend_line noLineFeed

theorem EditsLines.prepend
    {edit : Edit}
    (edits : EditsLines edit)
    {before : List Char}
    (precedes : PrecedesLine before) :
    EditsLines (Edit.keeping before ++ edit) := by
  rcases precedes with rfl | ⟨lines, rfl⟩
  · exact edits
  · induction lines using Text.line_induction with
    | last line noLineFeed =>
        rw [Edit.keeping_append, List.append_assoc]
        exact edits.prepend_line noLineFeed
    | next line rest noLineFeed inductionHypothesis =>
        rw [List.append_assoc, Edit.keeping_append, List.append_assoc]
        exact inductionHypothesis.prepend_line noLineFeed

/-- An edit of one line of a text keeps the others. -/
theorem LineEdit.editsLines
    (line : LineEdit)
    {before behind : List Char}
    (precedes : PrecedesLine before)
    (follows : FollowsLine behind) :
    EditsLines
      (Edit.keeping before ++ (line.edit ++ Edit.keeping behind)) := by
  apply EditsLines.prepend _ precedes
  rcases follows with rfl | ⟨rest, rfl⟩
  · have last := EditsLines.last line
    rwa [← List.append_nil line.edit] at last
  · exact .next line (editsLines_keeping rest)

theorem returning_of_not_mem
    {line : List Char}
    (noLineFeed : '\n' ∉ line) :
    returning line = Edit.keeping line := by
  induction line with
  | nil =>
      rfl
  | cons character rest inductionHypothesis =>
      obtain ⟨other, restClean⟩ :=
        not_or.mp (mt List.mem_cons.mpr noLineFeed)
      have later := inductionHypothesis restClean
      rw [returning] at later ⊢
      rw [List.flatMap_cons, if_neg (Ne.symm other), later]
      rfl

theorem returning_append (first second : List Char) :
    returning (first ++ second) = returning first ++ returning second :=
  List.flatMap_append

/-- A carriage return is a blank at the end of its line. -/
theorem editsLines_returning (text : List Char) :
    EditsLines (returning text) := by
  induction text using Text.line_induction with
  | last line noLineFeed =>
      rw [returning_of_not_mem noLineFeed]
      exact editsLines_keeping line
  | next line rest noLineFeed inductionHypothesis =>
      let returned : LineEdit :=
        { LineEdit.keeping line noLineFeed with
          trailing := [.replaced [] ['\r']]
          trailingBlank := by
            refine ⟨areBlanks_nil, List.forall_mem_singleton.mpr ?_⟩
            decide }
      have shape :
          returning (line ++ '\n' :: rest) =
            returned.edit ++ .kept '\n' :: returning rest := by
        rw [returning_append, returning_of_not_mem noLineFeed]
        simp [returned, LineEdit.edit, LineEdit.keeping, returning]
      rw [shape]
      exact .next returned inductionHypothesis

theorem original_returning (text : List Char) :
    Edit.original (returning text) = text := by
  induction text with
  | nil =>
      rfl
  | cons character rest inductionHypothesis =>
      have first :
          Edit.original (returning [character]) = [character] := by
        by_cases lineFeed : character = '\n'
        · simp [returning, lineFeed, Text.Piece.old]
        · simp [returning, lineFeed, Text.Piece.old]
      rw [← List.singleton_append, returning_append, Edit.original_append,
        first, inductionHypothesis]

theorem LayoutEdit.original_eq
    {source : String}
    {edit : Edit}
    (layout : LayoutEdit source edit) :
    edit.original = source.toList := by
  cases layout with
  | carriageReturns =>
      exact original_returning source.toList
  | comment text =>
      simp [text, Edit.replacing, Text.Piece.old]
  | blanksInFront text =>
      simp [text, Edit.replacing, Text.Piece.old]
  | blanksBehind text =>
      simp [text, Edit.replacing, Text.Piece.old]

/-- An edit of the layout edits lines around what they say. -/
theorem LayoutEdit.editsLines
    {source : String}
    {edit : Edit}
    (layout : LayoutEdit source edit) :
    EditsLines edit := by
  cases layout with
  | carriageReturns =>
      exact editsLines_returning source.toList
  | @comment before code old new behind _ precedes _ noLineFeed oldComment
      newComment follows =>
      let line : LineEdit :=
        { LineEdit.keeping code noLineFeed with
          comment := [.replaced old new]
          commentIsComment := by
            simpa [Text.Piece.old, Text.Piece.new] using
              And.intro oldComment newComment }
      have edits := line.editsLines precedes follows
      simpa [line, LineEdit.edit, LineEdit.keeping, Edit.replacing] using edits
  | @blanksInFront before leading old new rest behind _ precedes leadingBlanks
      oldBlanks newBlanks noLineFeed follows =>
      let line : LineEdit :=
        { LineEdit.keeping rest noLineFeed with
          leading := Edit.keeping leading ++ [.replaced old new]
          leadingBlank := by
            simpa [Text.Piece.old, Text.Piece.new] using
              And.intro (leadingBlanks.append oldBlanks)
                (leadingBlanks.append newBlanks) }
      have edits := line.editsLines precedes follows
      simpa [line, LineEdit.edit, LineEdit.keeping, Edit.replacing] using edits
  | @blanksBehind before code old new trailing comment behind _ precedes _
      noLineFeed oldBlanks newBlanks trailingBlanks isComment follows =>
      let line : LineEdit :=
        { LineEdit.keeping code noLineFeed with
          trailing := .replaced old new :: Edit.keeping trailing
          trailingBlank := by
            simpa [Text.Piece.old, Text.Piece.new] using
              And.intro (oldBlanks.append trailingBlanks)
                (newBlanks.append trailingBlanks)
          comment := Edit.keeping comment
          commentIsComment := by
            simpa using isComment }
      have edits := line.editsLines precedes follows
      simpa [line, LineEdit.edit, LineEdit.keeping, Edit.replacing] using edits

/-! ## What is parsed -/

section Kept

variable
    {source : String}
    {before behind : Edit}
    {marked : List Char}

/-- A label moves with the characters that it is on. -/
theorem labelMoves_of_kept
    (original :
      Edit.original (before ++ Edit.keeping marked ++ behind) = source.toList)
    (nonempty : marked ≠ [])
    (remark : String) :
    LabelMoves source (before ++ Edit.keeping marked ++ behind)
      ⟨⟨Text.byteLength before.original, Text.byteLength marked⟩, remark⟩
      ⟨⟨Text.byteLength before.edited, Text.byteLength marked⟩, remark⟩ where
  remark := rfl
  place := by
    refine
      ⟨before, marked, behind, rfl, nonempty, ?_, ?_, before.byteLength_edited⟩
    · exact ⟨⟨behind.original, by simp [← original]⟩, rfl, rfl⟩
    · exact ⟨⟨behind.edited, by simp⟩, rfl, rfl⟩

/-- A misreading of characters that an edit keeps moves with them. -/
theorem failsAlike_ofCharacters
    (original :
      Edit.original (before ++ Edit.keeping marked ++ behind) = source.toList)
    (nonempty : marked ≠ [])
    (defect : Defect) :
    FailsAlike source (before ++ Edit.keeping marked ++ behind)
      (.misread (.ofCharacters defect before.original marked))
      (.misread (.ofCharacters defect before.edited marked)) := by
  have moves := labelMoves_of_kept original nonempty
  cases defect with
  | badDigit =>
      exact ⟨rfl, .cons (moves _) .nil⟩
  | tooWide =>
      exact ⟨rfl, .cons (moves _) .nil⟩

end Kept

/-- Too many bytes are too many however they are laid out. -/
theorem failsAlike_of_ofBytes
    {bytes : List UInt8}
    {error : Error}
    (refused : ofBytes bytes = .error error)
    (source : String)
    (edit : Edit) :
    FailsAlike source edit error error := by
  obtain ⟨-, rfl⟩ := ofBytes_eq_error_iff.mp refused
  exact ⟨rfl, .nil⟩

/--
An edit of the layout of a source text leaves the image as it is, or the error. The
label of an error is on characters that are kept, and moves with them by the number of
bytes that are added in front of them.
-/
theorem layout_edits_keep_outcome
    {source : String}
    {edit : Edit}
    (layout : LayoutEdit source edit) :
    KeepsOutcome source edit := by
  have original := layout.original_eq
  have toListEdited : (String.ofList edit.edited).toList = edit.edited :=
    String.toList_ofList
  cases layout.editsLines.readAlike with
  | read readOriginal readEdited =>
      rw [original] at readOriginal
      rw [← toListEdited] at readEdited
      have parsed := parse_of_readText readOriginal
      have parsedEdited := parse_of_readText readEdited
      refine ⟨original, fun image accepted => ?_, fun error refused => ?_⟩
      · exact parsedEdited.trans (parsed.symm.trans accepted)
      · rw [parsed] at refused
        exact
          ⟨error, parsedEdited.trans refused,
            failsAlike_of_ofBytes refused source edit⟩
  | misread defect shape nonempty readOriginal readEdited =>
      rw [original] at readOriginal
      rw [← toListEdited] at readEdited
      have misread := parse_eq_misread_iff.mpr readOriginal
      have misreadEdited := parse_eq_misread_iff.mpr readEdited
      refine ⟨original, fun image accepted => ?_, fun error refused => ?_⟩
      · rw [misread] at accepted
        cases accepted
      · rw [misread] at refused
        cases refused
        refine ⟨_, misreadEdited, ?_⟩
        rw [shape] at original ⊢
        exact failsAlike_ofCharacters original nonempty defect

theorem layout_edits_keep_outcome_uncommented :
    ∃ edit,
      LayoutEdit "1 # é\n 12" edit ∧
        KeepsOutcome "1 # é\n 12" edit ∧
          String.ofList edit.edited = "1 \n 12" ∧
            parse "1 # é\n 12" = .error (.misread ⟨.badDigit, ⟨9, 1⟩⟩) ∧
              parse "1 \n 12" = .error (.misread ⟨.badDigit, ⟨5, 1⟩⟩) := by
  have layout :
      LayoutEdit "1 # é\n 12"
        (Edit.replacing ([] ++ "1 ".toList) "# é".toList [] "\n 12".toList) :=
    .comment (by decide) (.inl rfl) (by decide) (by decide)
      ⟨.inr ⟨_, rfl⟩, by decide⟩ isComment_nil (.inr ⟨_, rfl⟩)
  exact
    ⟨_, layout, layout_edits_keep_outcome layout, by decide, by decide,
      by decide⟩

end EightBit.Image
