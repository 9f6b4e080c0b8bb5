import EightBit.Text.Blank
import EightBit.Text.Line
import Mathlib.Data.List.DropRight
import Mathlib.Data.List.TakeWhile

namespace EightBit.Text

/-!
# Texts line by line

A text is one line, or a line, a line feed and another text. What is claimed of
texts by lines is proved along that shape, and cutting and trimming follow it:
a line feed is a blank, so a line is the same with it and without it once it is
trimmed.
-/

/--
What holds for a part without separator, and for one in front of a separator and a
text, holds for texts.
-/
theorem separated_induction
    {separator : Char}
    {motive : List Char → Prop}
    (last : ∀ part, separator ∉ part → motive part)
    (next :
      ∀ part rest,
        separator ∉ part → motive rest → motive (part ++ separator :: rest))
    (text : List Char) :
    motive text := by
  induction size : text.length using Nat.strongRecOn generalizing text with
  | ind length inductionHypothesis =>
      by_cases separated : separator ∈ text
      · obtain ⟨part, rest, rfl, noSeparator⟩ :=
          List.eq_append_cons_of_mem separated
        have shorter : rest.length < length := by
          simp only [← size, List.length_append, List.length_cons]
          omega
        exact next part rest noSeparator
          (inductionHypothesis rest.length shorter rest rfl)
      · exact last text separated

/-- What holds for a line, and for a line in front of a text, holds for texts. -/
theorem line_induction
    {motive : List Char → Prop}
    (last : ∀ line, '\n' ∉ line → motive line)
    (next : ∀ line rest, '\n' ∉ line → motive rest → motive (line ++ '\n' :: rest))
    (text : List Char) :
    motive text :=
  separated_induction last next text

/-- A text that is a line without line feed is cut nowhere. -/
theorem lines_of_not_mem
    {line : List Char}
    (noLineFeed : '\n' ∉ line)
    (nonempty : line ≠ []) :
    lines line = [line] := by
  induction line with
  | nil =>
      exact absurd rfl nonempty
  | cons character rest inductionHypothesis =>
      obtain ⟨other, restClean⟩ :=
        not_or.mp (mt List.mem_cons.mpr noLineFeed)
      rw [lines, if_neg (Ne.symm other)]
      cases rest with
      | nil =>
          rfl
      | cons second others =>
          rw [inductionHypothesis restClean (List.cons_ne_nil _ _)]

/-- The first line feed of a text is the end of its first line. -/
theorem lines_append_lineFeed
    {line : List Char}
    (noLineFeed : '\n' ∉ line)
    (rest : List Char) :
    lines (line ++ '\n' :: rest) = (line ++ ['\n']) :: lines rest := by
  induction line with
  | nil =>
      simp [lines]
  | cons character others inductionHypothesis =>
      obtain ⟨other, othersClean⟩ :=
        not_or.mp (mt List.mem_cons.mpr noLineFeed)
      rw [List.cons_append, lines, if_neg (Ne.symm other),
        inductionHypothesis othersClean, List.cons_append]

/--
A line of a text stands behind the lines in front of it and their line feeds. It
ends with the text or at a line feed.
-/
theorem exists_behind_of_splitOn
    {text line : List Char}
    {earlier later : List (List Char)}
    (split : text.splitOn '\n' = earlier ++ line :: later) :
    ∃ behind,
      text = earlier.flatMap (· ++ ['\n']) ++ line ++ behind ∧
        (behind = [] ∨ ∃ rest, behind = '\n' :: rest) := by
  rw [← @List.intercalate_splitOn _ text _ _ '\n', split]
  clear split
  induction earlier with
  | nil =>
      cases later with
      | nil =>
          exact ⟨[], by simp, Or.inl rfl⟩
      | cons next others =>
          refine ⟨'\n' :: ['\n'].intercalate (next :: others), ?_, Or.inr ⟨_, rfl⟩⟩
          simp
  | cons first others inductionHypothesis =>
      obtain ⟨behind, shape, ending⟩ := inductionHypothesis
      refine ⟨behind, ?_, ending⟩
      have nonempty : others ++ line :: later ≠ [] :=
        List.append_ne_nil_of_right_ne_nil _ (List.cons_ne_nil _ _)
      rw [List.cons_append, List.intercalate_cons_of_ne_nil nonempty, shape,
        List.flatMap_cons]
      simp only [List.append_assoc]

/-- The characters that are trimmed at the end of a text are blank. -/
theorem exists_append_trimEnd (text : List Char) :
    ∃ trailing,
      text = trimEnd text ++ trailing ∧
        ∀ character ∈ trailing, isBlank character := by
  refine ⟨text.rtakeWhile isBlank, ?_, ?_⟩
  · exact List.rdropWhile_append_rtakeWhile.symm
  · intro character member
    exact List.mem_rtakeWhile_imp member

/-- A blank at the end of a text does not outlast trimming. -/
theorem trimEnd_append_blank
    {character : Char}
    (blank : isBlank character)
    (text : List Char) :
    trimEnd (text ++ [character]) = trimEnd text :=
  List.rdropWhile_concat_pos isBlank text character blank

theorem trim_append_blank
    {character : Char}
    (blank : isBlank character)
    (text : List Char) :
    trimEnd (trimStart (text ++ [character])) = trimEnd (trimStart text) := by
  rw [trimStart, List.dropWhile_append]
  split
  · rename_i allBlank
    rw [List.isEmpty_iff] at allBlank
    simp [trimStart, allBlank, blank, trimEnd]
  · exact trimEnd_append_blank blank _

/-- What is appended behind the indentation leaves the indentation alone. -/
theorem indentation_append
    {text : List Char}
    (remains : trimStart text ≠ [])
    (behind : List Char) :
    indentation (text ++ behind) = indentation text := by
  have whole := congrArg List.length (indentation_append_trimStart text)
  rw [List.length_append] at whole
  have positive := List.length_pos_iff.mpr remains
  rw [indentation, List.takeWhile_append, if_neg]
  · rfl
  · intro equalLength
    rw [indentation] at whole
    omega

end EightBit.Text
