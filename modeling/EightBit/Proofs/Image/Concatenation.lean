import EightBit.Proofs.Image.Grammar

namespace EightBit

/-!
# Source texts one behind the other

Where a text is put behind another one and a line feed, the lines of both are read
one after the other. A literal that is misread in the first text is misread just
so; one in the second text is misread as it is there, but further back by all the
bytes in front. Only the number of literals is a matter of both texts.
-/

/-- The same report after a number of bytes has been put in front of its source. -/
def Report.shift
    (report : Report)
    (bytes : Nat) :
    Report :=
  { report with
    labels :=
      report.labels.map fun label =>
        { label with span := label.span.shift bytes } }

namespace Image

/-- The bytes of two texts with a line feed between them. -/
theorem readText_append (first second : List Char) :
    readText (first ++ '\n' :: second) =
      match readText first with
      | .error misreading => .error misreading
      | .ok bytes =>
          match readText second with
          | .error misreading =>
              .error (misreading.shift (Text.byteLength (first ++ ['\n'])))
          | .ok more => .ok (bytes ++ more) := by
  induction first using Text.line_induction with
  | last line noLineFeed =>
      rw [readText_append_lineFeed noLineFeed, readText_of_not_mem noLineFeed]
      cases readLine line <;> rfl
  | next line rest noLineFeed inductionHypothesis =>
      rw [List.append_assoc, List.cons_append,
        readText_append_lineFeed noLineFeed,
        readText_append_lineFeed noLineFeed, inductionHypothesis]
      cases readLine line with
      | error misreading =>
          rfl
      | ok byte =>
          cases readText rest with
          | error misreading =>
              rfl
          | ok bytes =>
              cases readText second with
              | error misreading =>
                  simp [Misreading.shift_shift, Nat.add_assoc]
              | ok more =>
                  simp

/-- A line feed at the end of a text does not count. -/
theorem readText_append_singleton (text : List Char) :
    readText (text ++ ['\n']) = readText text := by
  have nothing : readText [] = .ok [] := rfl
  rw [readText_append, nothing]
  cases readText text with
  | error misreading =>
      rfl
  | ok bytes =>
      simp

theorem parse_of_readText
    {source : String}
    {bytes : List UInt8}
    (read : readText source.toList = .ok bytes) :
    parse source = ofBytes bytes := by
  rw [parse, read]

theorem parse_eq_misread_iff
    {source : String}
    {misreading : Misreading} :
    parse source = .error (.misread misreading) ↔
      readText source.toList = .error misreading := by
  cases read : readText source.toList with
  | error other =>
      rw [parse, read]
      simp
  | ok bytes =>
      rw [parse_of_readText read, ofBytes_eq_error_iff]
      simp

theorem ofBytes_of_le
    {bytes : List UInt8}
    (fits : bytes.length ≤ 256) :
    ofBytes bytes = .ok ⟨bytes, fits⟩ :=
  ofBytes_eq_ok_iff.mpr ⟨fits, rfl⟩

/-- Too many bytes are reported with their number. -/
theorem exists_error_of_lt
    {bytes : List UInt8}
    (large : 256 < bytes.length) :
    ∃ error,
      ofBytes bytes = .error error ∧
        error.report.code = some "load::too_large" ∧
          error.report.message =
            "Program of " ++ toString bytes.length ++
              " bytes does not fit in memory." := by
  refine ⟨.tooLarge bytes.length, ?_, rfl, ?_⟩
  · exact ofBytes_eq_error_iff.mpr ⟨large, rfl⟩
  · rw [← Numeral.ofList_write_ten]
    rfl

section Concatenation

variable {first second : String}

end Concatenation

example :
    parse ("1 # é" ++ "\n" ++ "12") =
      .error (.misread ⟨.badDigit, ⟨7 + 1, 1⟩⟩) := by
  decide +kernel

end Image

end EightBit
