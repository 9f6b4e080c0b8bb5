import EightBit.Proofs.Text.Encoding
import EightBit.Report

namespace EightBit

/-!
# Stretches of a text

A stretch is given by counts of bytes. It marks some characters of a text if it
starts behind the bytes of what is in front of them and is as long as they are.
Such a stretch starts and ends between two characters, and the bytes in it are
those of the characters it marks.
-/

/-- A stretch marks characters of a text that stand behind some others. -/
structure Span.Marks
    (span : Span)
    (source : String)
    (before marked : List Char) :
    Prop where
  text : ∃ behind, source.toList = before ++ marked ++ behind
  offset : span.offset = Text.byteLength before
  length : span.length = Text.byteLength marked

/-- The bytes of a text that a stretch covers. -/
def Span.bytesIn
    (span : Span)
    (source : String) :
    List UInt8 :=
  ((Text.encode source).drop span.offset).take span.length

namespace Text

theorem utf8ByteSize_ofList (characters : List Char) :
    (String.ofList characters).utf8ByteSize = byteLength characters := by
  rw [← length_characterBytes]
  have encoded := encode_eq_characterBytes (String.ofList characters)
  rw [String.toList_ofList] at encoded
  rw [← encoded]
  rfl

/-- Behind any of its characters there is a character boundary of a text. -/
theorem isValid_byteLength
    {source : String}
    {before behind : List Char}
    (shape : source.toList = before ++ behind) :
    String.Pos.Raw.IsValid source ⟨byteLength before⟩ := by
  rw [String.Pos.Raw.isValid_iff_exists_append]
  refine ⟨String.ofList before, String.ofList behind, ?_, ?_⟩
  · rw [← String.ofList_append, ← shape, String.ofList_toList]
  · apply String.Pos.Raw.ext
    exact (utf8ByteSize_ofList before).symm

end Text

namespace Span.Marks

variable
    {span : Span}
    {source : String}
    {before marked : List Char}

theorem isValid_offset (marks : span.Marks source before marked) :
    String.Pos.Raw.IsValid source ⟨span.offset⟩ := by
  obtain ⟨behind, shape⟩ := marks.text
  rw [List.append_assoc] at shape
  rw [marks.offset]
  exact Text.isValid_byteLength shape

theorem isValid_end (marks : span.Marks source before marked) :
    String.Pos.Raw.IsValid source ⟨span.offset + span.length⟩ := by
  obtain ⟨behind, shape⟩ := marks.text
  rw [marks.offset, marks.length, ← Text.byteLength_append]
  exact Text.isValid_byteLength shape

theorem end_le (marks : span.Marks source before marked) :
    span.offset + span.length ≤ (Text.encode source).length := by
  obtain ⟨behind, shape⟩ := marks.text
  rw [Text.encode_eq_characterBytes, shape, marks.offset, marks.length]
  simp

/-- A stretch covers the bytes of the characters that it marks. -/
theorem bytesIn_eq (marks : span.Marks source before marked) :
    span.bytesIn source = Text.characterBytes marked := by
  obtain ⟨behind, shape⟩ := marks.text
  rw [bytesIn, Text.encode_eq_characterBytes, shape, marks.offset,
    marks.length, Text.characterBytes_append, Text.characterBytes_append,
    List.append_assoc, ← Text.length_characterBytes before,
    List.drop_left, ← Text.length_characterBytes marked, List.take_left]

end Span.Marks

end EightBit
