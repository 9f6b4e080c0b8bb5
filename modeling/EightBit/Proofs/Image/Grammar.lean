import EightBit.Image.Source
import EightBit.Proofs.Image.Literal
import EightBit.Proofs.Text.Encoding
import EightBit.Proofs.Text.Line

namespace EightBit.Image

/-!
# What source text says

The lines of a text are what stands between its line feeds. The literal of a
line is the rest of it once the comment is cut off and the white space on both
sides is. Reading a text comes to what the literals of its lines, in their order, say
it has to come to: the bytes they stand for, or the fault of the first of them
that stands for none, or the number of them where they are too many.
-/

namespace Grammar

/-- What a line holds in front of its comment, without white space around it. -/
def literal (line : List Char) : List Char :=
  ((line.takeWhile (· ≠ '#')).dropWhile (· ∈ Text.whiteSpace)).rdropWhile
    (· ∈ Text.whiteSpace)

/-- The literals of lines that have one, in order. -/
def literalsOf (lines : List (List Char)) : List (List Char) :=
  (lines.map literal).filter (· ≠ [])

/-- The literals of a source text, in order. -/
def literals (source : String) : List (List Char) :=
  literalsOf (source.toList.splitOn '\n')

/-- A line without literal, or with one that stands for a byte. -/
def IsValidLine (line : List Char) : Prop :=
  literal line = [] ∨ IsByteLiteral (literal line)

/-- The first literal of a source text that stands for no byte. -/
def firstFault? (source : String) : Option (List Char) :=
  (literals source).find? fun text => ¬IsByteLiteral text

theorem literalsOf_cons_of_eq_nil
    {line : List Char}
    (noLiteral : literal line = [])
    (lines : List (List Char)) :
    literalsOf (line :: lines) = literalsOf lines := by
  simp [literalsOf, noLiteral]

theorem literalsOf_cons_of_ne_nil
    {line : List Char}
    (someLiteral : literal line ≠ [])
    (lines : List (List Char)) :
    literalsOf (line :: lines) = literal line :: literalsOf lines := by
  simp [literalsOf, someLiteral]

theorem literalsOf_append
    (first second : List (List Char)) :
    literalsOf (first ++ second) = literalsOf first ++ literalsOf second := by
  simp [literalsOf]

/-- The literals of valid lines all stand for bytes. -/
theorem isByteLiteral_of_mem_literalsOf
    {lines : List (List Char)}
    (valid : ∀ line ∈ lines, IsValidLine line)
    {text : List Char}
    (member : text ∈ literalsOf lines) :
    IsByteLiteral text := by
  obtain ⟨inLines, nonempty⟩ := List.mem_filter.mp member
  obtain ⟨line, lineMember, rfl⟩ := List.mem_map.mp inLines
  rcases valid line lineMember with noLiteral | byteLiteral
  · simp [noLiteral] at nonempty
  · exact byteLiteral

end Grammar

/-! ## One line -/

theorem literalOf_eq_literal (line : List Char) :
    literalOf line = Grammar.literal line := by
  rw [literalOf, Text.trimEnd, Text.trimStart, Text.isBlank_eq_decide]
  rfl

/-- A line is its indentation, its literal, more blanks, and its comment. -/
theorem exists_line_parts (line : List Char) :
    ∃ trailing comment,
      line =
          indentationOf line ++ Grammar.literal line ++ trailing ++ comment ∧
        (∀ character ∈ indentationOf line, character ∈ Text.whiteSpace) ∧
          (∀ character ∈ trailing, character ∈ Text.whiteSpace) ∧
            '#' ∉ indentationOf line ++ Grammar.literal line ++ trailing ∧
              (comment = [] ∨ ∃ rest, comment = '#' :: rest) := by
  obtain ⟨trailing, trimmed, trailingBlank⟩ :=
    Text.exists_append_trimEnd (Text.trimStart (codePart line))
  have code :
      codePart line =
        indentationOf line ++ Grammar.literal line ++ trailing := by
    rw [List.append_assoc, ← literalOf_eq_literal, literalOf, ← trimmed,
      indentationOf, Text.indentation_append_trimStart]
  refine ⟨trailing, line.dropWhile (· ≠ '#'), ?_, ?_, ?_, ?_, ?_⟩
  · rw [← code, codePart, List.takeWhile_append_dropWhile]
  · intro character member
    exact Text.isBlank_iff.mp (List.mem_takeWhile_imp member)
  · intro character member
    exact Text.isBlank_iff.mp (trailingBlank character member)
  · rw [← code]
    intro member
    have other := List.mem_takeWhile_imp member
    simp at other
  · cases behind : line.dropWhile (· ≠ '#') with
    | nil =>
        exact Or.inl rfl
    | cons character rest =>
        have head := List.head?_dropWhile_not (· ≠ '#') line
        rw [behind] at head
        obtain rfl : character = '#' := by
          simpa using head
        exact Or.inr ⟨rest, rfl⟩

/-- What starts no comment belongs to the comment of the line it is behind, or to its code. -/
theorem codePart_append_singleton
    {character : Char}
    (startsNone : character ≠ '#')
    (line : List Char) :
    codePart (line ++ [character]) = codePart line ∨
      codePart (line ++ [character]) = codePart line ++ [character] := by
  rw [codePart, codePart, List.takeWhile_append]
  split
  · rename_i noComment
    have whole : line.takeWhile (· ≠ '#') = line :=
      (List.takeWhile_prefix _).eq_of_length noComment
    right
    rw [whole, List.takeWhile_cons_of_pos (by simpa using startsNone)]
    rfl
  · exact Or.inl rfl

theorem ne_comment_of_isBlank
    {character : Char}
    (blank : Text.isBlank character) :
    character ≠ '#' := by
  rintro rfl
  exact absurd blank (by decide)

/-- A blank behind a line does not count. -/
theorem literal_append_blank
    {character : Char}
    (blank : Text.isBlank character)
    (line : List Char) :
    Grammar.literal (line ++ [character]) = Grammar.literal line := by
  rw [← literalOf_eq_literal, ← literalOf_eq_literal]
  rcases codePart_append_singleton (ne_comment_of_isBlank blank) line with
    same | longer
  · rw [literalOf, literalOf, same]
  · rw [literalOf, literalOf, longer]
    exact Text.trim_append_blank blank _

theorem indentationOf_append_blank
    {character : Char}
    (blank : Text.isBlank character)
    {line : List Char}
    (someLiteral : Grammar.literal line ≠ []) :
    indentationOf (line ++ [character]) = indentationOf line := by
  rcases codePart_append_singleton (ne_comment_of_isBlank blank) line with
    same | longer
  · rw [indentationOf, indentationOf, same]
  · rw [indentationOf, indentationOf, longer]
    refine Text.indentation_append ?_ _
    intro nothing
    apply someLiteral
    rw [← literalOf_eq_literal, literalOf, nothing]
    rfl

/-- What comes of a line, by its literal. -/
inductive ReadsLine (line : List Char) :
    Except Misreading (Option UInt8) →
    Prop where
  | blank
      (noLiteral : Grammar.literal line = []) :
      ReadsLine line (.ok none)
  | byte
      (valid : IsByteLiteral (Grammar.literal line)) :
      ReadsLine line
        (.ok (some (UInt8.ofNat (binaryValue (Grammar.literal line)))))
  | misread
      {misreading : Misreading}
      (misread : Misread (Grammar.literal line) misreading) :
      ReadsLine line
        (.error (misreading.shift (Text.byteLength (indentationOf line))))

theorem readsLine_readLine (line : List Char) :
    ReadsLine line (readLine line) := by
  rw [readLine, literalOf_eq_literal]
  split
  · rename_i empty
    exact .blank (List.isEmpty_iff.mp empty)
  · rename_i someLiteral
    rw [List.isEmpty_iff] at someLiteral
    by_cases valid : IsByteLiteral (Grammar.literal line)
    · rw [readLiteral_of_isByteLiteral valid]
      exact .byte valid
    · obtain ⟨misreading, misread, read⟩ := exists_misread someLiteral valid
      rw [read]
      exact .misread misread

/-- A line says the same with a blank at its end, be it a line feed, and without. -/
theorem readLine_append_blank
    {character : Char}
    (blank : Text.isBlank character)
    (line : List Char) :
    readLine (line ++ [character]) = readLine line := by
  rw [readLine, readLine, literalOf_eq_literal, literalOf_eq_literal,
    literal_append_blank blank]
  split
  · rfl
  · rename_i someLiteral
    rw [List.isEmpty_iff] at someLiteral
    rw [indentationOf_append_blank blank someLiteral]

/-! ## All lines -/

theorem readText_of_not_mem
    {line : List Char}
    (noLineFeed : '\n' ∉ line) :
    readText line = (readLine line).map Option.toList := by
  by_cases empty : line = []
  · rw [empty]
    rfl
  · rw [readText, Text.lines_of_not_mem noLineFeed empty, readLines]
    cases readLine line with
    | error misreading =>
        rfl
    | ok byte =>
        simp [readLines, Except.map]

theorem readText_append_lineFeed
    {line : List Char}
    (noLineFeed : '\n' ∉ line)
    (rest : List Char) :
    readText (line ++ '\n' :: rest) =
      match readLine line with
      | .error misreading => .error misreading
      | .ok byte =>
          match readText rest with
          | .error misreading =>
              .error (misreading.shift (Text.byteLength (line ++ ['\n'])))
          | .ok bytes => .ok (byte.toList ++ bytes) := by
  rw [readText, Text.lines_append_lineFeed noLineFeed, readLines,
    readLine_append_blank (by decide)]
  rfl

/-- What comes of lines that are read one after the other. -/
inductive ReadsLines :
    List (List Char) →
    Except Misreading (List UInt8) →
    Prop where
  | nil :
      ReadsLines [] (.ok [])
  | blank
      {line : List Char}
      {lines : List (List Char)}
      {bytes : List UInt8}
      (noLiteral : Grammar.literal line = [])
      (rest : ReadsLines lines (.ok bytes)) :
      ReadsLines (line :: lines) (.ok bytes)
  | byte
      {line : List Char}
      {lines : List (List Char)}
      {bytes : List UInt8}
      (valid : IsByteLiteral (Grammar.literal line))
      (rest : ReadsLines lines (.ok bytes)) :
      ReadsLines (line :: lines)
        (.ok (UInt8.ofNat (binaryValue (Grammar.literal line)) :: bytes))
  | misread
      {line : List Char}
      {lines : List (List Char)}
      {misreading : Misreading}
      (misread : Misread (Grammar.literal line) misreading) :
      ReadsLines (line :: lines)
        (.error (misreading.shift (Text.byteLength (indentationOf line))))
  | later
      {line : List Char}
      {lines : List (List Char)}
      {misreading : Misreading}
      (valid : Grammar.IsValidLine line)
      (rest : ReadsLines lines (.error misreading)) :
      ReadsLines (line :: lines)
        (.error (misreading.shift (Text.byteLength (line ++ ['\n']))))

theorem readsLines_readText (text : List Char) :
    ReadsLines (text.splitOn '\n') (readText text) := by
  induction text using Text.line_induction with
  | last line noLineFeed =>
      have reading := readsLine_readLine line
      rw [List.splitOn_eq_singleton noLineFeed, readText_of_not_mem noLineFeed]
      generalize readLine line = result at reading
      cases reading with
      | blank noLiteral =>
          exact .blank noLiteral .nil
      | byte valid =>
          exact .byte valid .nil
      | misread misread =>
          exact .misread misread
  | next line rest noLineFeed inductionHypothesis =>
      have reading := readsLine_readLine line
      rw [List.splitOn_append_cons_self_of_not_mem noLineFeed,
        readText_append_lineFeed noLineFeed]
      generalize readLine line = result at reading
      generalize readText rest = laterResult at inductionHypothesis
      cases reading with
      | blank noLiteral =>
          cases laterResult with
          | ok bytes =>
              exact .blank noLiteral inductionHypothesis
          | error misreading =>
              exact .later (.inl noLiteral) inductionHypothesis
      | byte valid =>
          cases laterResult with
          | ok bytes =>
              exact .byte valid inductionHypothesis
          | error misreading =>
              exact .later (.inr valid) inductionHypothesis
      | misread misread =>
          exact .misread misread

namespace ReadsLines

/-- Lines that are read are valid, and their literals stand for the bytes. -/
theorem of_ok
    {lines : List (List Char)}
    {bytes : List UInt8}
    (reads : ReadsLines lines (.ok bytes)) :
    (∀ line ∈ lines, Grammar.IsValidLine line) ∧
      bytes.map UInt8.toNat = (Grammar.literalsOf lines).map binaryValue := by
  induction lines generalizing bytes with
  | nil =>
      cases reads
      exact ⟨List.forall_mem_nil _, rfl⟩
  | cons line rest inductionHypothesis =>
      cases reads with
      | blank noLiteral restReads =>
          obtain ⟨restValid, values⟩ := inductionHypothesis restReads
          refine ⟨List.forall_mem_cons.mpr ⟨.inl noLiteral, restValid⟩, ?_⟩
          rw [Grammar.literalsOf_cons_of_eq_nil noLiteral, values]
      | byte valid restReads =>
          obtain ⟨restValid, values⟩ := inductionHypothesis restReads
          refine ⟨List.forall_mem_cons.mpr ⟨.inr valid, restValid⟩, ?_⟩
          rw [Grammar.literalsOf_cons_of_ne_nil valid.ne_nil, List.map_cons,
            List.map_cons, values, toNat_ofNat_binaryValue valid]

/--
Lines that are not read have a first one that is misread. The misreading is
placed behind the lines in front of it and its own indentation.
-/
theorem of_error
    {lines : List (List Char)}
    {misreading : Misreading}
    (reads : ReadsLines lines (.error misreading)) :
    ∃ earlier line later unplaced,
      lines = earlier ++ line :: later ∧
        (∀ other ∈ earlier, Grammar.IsValidLine other) ∧
          Misread (Grammar.literal line) unplaced ∧
            misreading =
              unplaced.shift
                (Text.byteLength
                  (earlier.flatMap (· ++ ['\n']) ++ indentationOf line)) := by
  induction lines generalizing misreading with
  | nil =>
      cases reads
  | cons line rest inductionHypothesis =>
      cases reads with
      | misread misread =>
          exact ⟨[], line, rest, _, rfl, List.forall_mem_nil _, misread, rfl⟩
      | later valid restReads =>
          obtain ⟨earlier, other, later, unplaced, rfl, earlierValid, misread,
              rfl⟩ :=
            inductionHypothesis restReads
          refine ⟨line :: earlier, other, later, unplaced, rfl, ?_, misread, ?_⟩
          · exact List.forall_mem_cons.mpr ⟨valid, earlierValid⟩
          · rw [Misreading.shift_shift, List.flatMap_cons, List.append_assoc,
              ← Text.byteLength_append]

end ReadsLines

/-! ## The whole text -/

/-- What comes of a source text, by its lines. -/
inductive Parses (source : String) : Except Error Image → Prop where
  | image
      {image : Image}
      (valid : ∀ line ∈ source.toList.splitOn '\n', Grammar.IsValidLine line)
      (values :
        image.bytes.map UInt8.toNat =
          (Grammar.literals source).map binaryValue) :
      Parses source (.ok image)
  | tooLarge
      (valid : ∀ line ∈ source.toList.splitOn '\n', Grammar.IsValidLine line)
      (large : Memory.size < (Grammar.literals source).length) :
      Parses source (.error (.tooLarge (Grammar.literals source).length))
  | misread
      {earlier later : List (List Char)}
      {line : List Char}
      {misreading : Misreading}
      (split : source.toList.splitOn '\n' = earlier ++ line :: later)
      (earlierValid : ∀ other ∈ earlier, Grammar.IsValidLine other)
      (misread : Misread (Grammar.literal line) misreading) :
      Parses source
        (.error
          (.misread
            (misreading.shift
              (Text.byteLength
                (earlier.flatMap (· ++ ['\n']) ++ indentationOf line)))))

/-- Source text is parsed as its lines say. -/
theorem parses_parse (source : String) :
    Parses source (parse source) := by
  have reads := readsLines_readText source.toList
  rw [parse]
  generalize readText source.toList = result at reads
  cases result with
  | error misreading =>
      obtain ⟨earlier, line, later, unplaced, split, earlierValid, misread,
          rfl⟩ :=
        reads.of_error
      exact .misread split earlierValid misread
  | ok bytes =>
      obtain ⟨valid, values⟩ := reads.of_ok
      have sameLength := congrArg List.length values
      rw [List.length_map, List.length_map] at sameLength
      change Parses source (ofBytes bytes)
      cases made : ofBytes bytes with
      | ok image =>
          obtain ⟨-, sameBytes⟩ := ofBytes_eq_ok_iff.mp made
          rw [← sameBytes] at values
          exact .image valid values
      | error error =>
          obtain ⟨large, rfl⟩ := ofBytes_eq_error_iff.mp made
          rw [sameLength] at large ⊢
          exact .tooLarge valid large

/-- The first line at fault holds the first literal that stands for no byte. -/
theorem firstFault?_of_split
    {source : String}
    {earlier later : List (List Char)}
    {line : List Char}
    {misreading : Misreading}
    (split : source.toList.splitOn '\n' = earlier ++ line :: later)
    (earlierValid : ∀ other ∈ earlier, Grammar.IsValidLine other)
    (misread : Misread (Grammar.literal line) misreading) :
    Grammar.firstFault? source = some (Grammar.literal line) := by
  have noneEarlier :
      (Grammar.literalsOf earlier).find? (fun text => ¬IsByteLiteral text) =
        none := by
    rw [List.find?_eq_none]
    intro text member
    have byteLiteral :=
      Grammar.isByteLiteral_of_mem_literalsOf earlierValid member
    simp [byteLiteral]
  rw [Grammar.firstFault?, Grammar.literals, split, Grammar.literalsOf_append,
    List.find?_append, noneEarlier, Option.none_or,
    Grammar.literalsOf_cons_of_ne_nil misread.ne_nil]
  exact List.find?_cons_of_pos (by simp [misread.not_isByteLiteral])

theorem firstFault?_eq_none
    {source : String}
    (valid : ∀ line ∈ source.toList.splitOn '\n', Grammar.IsValidLine line) :
    Grammar.firstFault? source = none := by
  rw [Grammar.firstFault?, List.find?_eq_none]
  intro text member
  have byteLiteral := Grammar.isByteLiteral_of_mem_literalsOf valid member
  simp [byteLiteral]

/-- The code of a misreading says whether all characters are binary digits. -/
theorem Misread.code_eq
    {literal : List Char}
    {misreading : Misreading}
    (misread : Misread literal misreading)
    (bytes : Nat) :
    (Error.misread (misreading.shift bytes)).code =
      if IsBinary literal then "load::too_wide" else "load::bad_digit" := by
  cases misread with
  | badDigit binary noDigit =>
      rw [if_neg (not_isBinary_append_cons noDigit)]
      rfl
  | tooWide binary wide =>
      rw [if_pos binary]
      rfl

theorem length_literals_le
    {source : String}
    {image : Image}
    (values :
      image.bytes.map UInt8.toNat =
        (Grammar.literals source).map binaryValue) :
    (Grammar.literals source).length ≤ Memory.size := by
  have sameLength := congrArg List.length values
  rw [List.length_map, List.length_map] at sameLength
  rw [← sameLength]
  exact image.fits

/--
Source text makes an image exactly if each of its literals stands for a byte and
no more than 256 of them do; the image is their values in order. Otherwise the
first literal that stands for no byte decides what is wrong, and only where there
is none the number of literals does. What has passed for one to eight binary
digits is always converted.
-/
theorem parse_follows_grammar (source : String) :
    ((∃ image, parse source = .ok image) ↔
      (∀ text ∈ Grammar.literals source, IsByteLiteral text) ∧
        (Grammar.literals source).length ≤ 256) ∧
    (∀ image,
      parse source = .ok image →
        image.bytes.map UInt8.toNat =
          (Grammar.literals source).map binaryValue) ∧
    (∀ text,
      Grammar.firstFault? source = some text →
        ∃ error,
          parse source = .error error ∧
            error.report.code =
              some
                (if IsBinary text then
                  "load::too_wide"
                else
                  "load::bad_digit")) ∧
    (Grammar.firstFault? source = none →
      256 < (Grammar.literals source).length →
        ∃ error,
          parse source = .error error ∧
            error.report.code = some "load::too_large" ∧
              error.report.message =
                "Program of " ++ toString (Grammar.literals source).length ++
                  " bytes does not fit in memory.") ∧
    (∀ text ∈ Grammar.literals source,
      text.dropWhile isBinaryDigit = [] →
        Text.byteLength text ≤ 8 →
          ∃ byte, readByte? text = some byte) := by
  have parses := parses_parse source
  refine ⟨⟨?_, ?_⟩, ?_, ?_, ?_, ?_⟩
  · rintro ⟨image, parsed⟩
    rw [parsed] at parses
    cases parses with
    | image valid values =>
        refine ⟨fun text => Grammar.isByteLiteral_of_mem_literalsOf valid, ?_⟩
        exact length_literals_le values
  · rintro ⟨allValid, fits⟩
    generalize parse source = result at parses
    cases parses with
    | image valid values =>
        exact ⟨_, rfl⟩
    | tooLarge valid large =>
        exact absurd fits (Nat.not_le.mpr large)
    | misread split earlierValid misread =>
        have fault := firstFault?_of_split split earlierValid misread
        have valid := allValid _ (List.mem_of_find?_eq_some fault)
        exact absurd valid misread.not_isByteLiteral
  · intro image parsed
    rw [parsed] at parses
    cases parses with
    | image valid values =>
        exact values
  · intro text fault
    generalize parse source = result at parses
    cases parses with
    | image valid values =>
        rw [firstFault?_eq_none valid] at fault
        cases fault
    | tooLarge valid large =>
        rw [firstFault?_eq_none valid] at fault
        cases fault
    | misread split earlierValid misread =>
        rw [firstFault?_of_split split earlierValid misread] at fault
        obtain rfl := Option.some.inj fault
        exact ⟨_, rfl, congrArg some (misread.code_eq _)⟩
  · intro noFault large
    generalize parse source = result at parses
    cases parses with
    | image valid values =>
        exact absurd (length_literals_le values) (Nat.not_le.mpr large)
    | tooLarge valid large =>
        refine ⟨_, rfl, rfl, ?_⟩
        rw [← Numeral.ofList_write_ten]
        rfl
    | misread split earlierValid misread =>
        rw [firstFault?_of_split split earlierValid misread] at noFault
        cases noFault
  · intro text member digits narrow
    have nonempty : text ≠ [] := by
      simpa using (List.mem_filter.mp member).2
    have binary : IsBinary text := by
      intro character characterMember
      exact isBinaryDigit_iff.mp
        (List.dropWhile_eq_nil_iff.mp digits character characterMember)
    rw [byteLength_of_isBinary binary] at narrow
    have positive := List.length_pos_iff.mpr nonempty
    exact ⟨_, readByte?_of_isByteLiteral ⟨positive, narrow, binary⟩⟩

example :
    (parse "  101 \r\n\r\n\t1#x\r\n#\r\n0").toOption.map Image.bytes =
      some [5, 1, 0] := by
  decide +kernel

end EightBit.Image
