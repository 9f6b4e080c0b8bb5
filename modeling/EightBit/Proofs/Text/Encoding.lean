import EightBit.Text.Encoding
import EightBit.Text.Line
import EightBit.Text.Numeral

namespace EightBit

/-!
# Bytes of text

The bytes of a text are those of its characters, one after the other, so that
lengths and positions in bytes can be computed from characters. Decoding undoes
encoding and nothing else; output lines in ASCII are the UTF-8 form of what
they say.
-/

namespace Text

/-- The bytes of characters in UTF-8. -/
def characterBytes (characters : List Char) : List UInt8 :=
  characters.flatMap String.utf8EncodeChar

@[simp] theorem characterBytes_nil :
    characterBytes [] = [] :=
  rfl

@[simp] theorem characterBytes_cons
    (character : Char)
    (rest : List Char) :
    characterBytes (character :: rest) =
      String.utf8EncodeChar character ++ characterBytes rest :=
  rfl

@[simp] theorem characterBytes_append
    (first second : List Char) :
    characterBytes (first ++ second) =
      characterBytes first ++ characterBytes second := by
  simp [characterBytes]

/-- A text is encoded character by character. -/
theorem encode_eq_characterBytes (text : String) :
    encode text = characterBytes text.toList := by
  obtain ⟨characters, rfl⟩ : ∃ characters, text = String.ofList characters :=
    ⟨text.toList, by simp⟩
  simp [encode, characterBytes, String.toUTF8_eq_toByteArray,
    String.toByteArray_ofList, List.utf8Encode]

@[simp] theorem length_characterBytes (characters : List Char) :
    (characterBytes characters).length = byteLength characters := by
  induction characters with
  | nil =>
      rfl
  | cons character rest inductionHypothesis =>
      simp [inductionHypothesis]

/-- Bytes say a text exactly if they are its bytes. -/
theorem decode?_eq_some_iff
    {bytes : List UInt8}
    {text : String} :
    decode? bytes = some text ↔ bytes = encode text := by
  unfold decode? encode String.fromUTF8?
  constructor
  · intro decoded
    split at decoded
    · obtain rfl := Option.some.inj decoded
      simp [String.fromUTF8, String.toUTF8_eq_toByteArray]
    · cases decoded
  · rintro rfl
    have valid : text.toByteArray.IsValidUTF8 := text.isValidUTF8
    simp [String.toUTF8_eq_toByteArray, String.fromUTF8, valid]

/-- ASCII characters have one byte each. -/
theorem asciiBytes_eq_characterBytes
    {characters : List Char}
    (ascii : ∀ character ∈ characters, character.toNat < 128) :
    asciiBytes characters = characterBytes characters := by
  induction characters with
  | nil =>
      rfl
  | cons character rest inductionHypothesis =>
      have first : character.toNat < 128 := ascii character (by simp)
      have later : asciiBytes rest = characterBytes rest :=
        inductionHypothesis fun other member => ascii other (by simp [member])
      have single :
          String.utf8EncodeChar character =
            [UInt8.ofNat character.toNat] := by
        have small : character.val.toNat ≤ 127 := Nat.le_of_lt_succ first
        rw [String.utf8EncodeChar, if_pos small]
        rfl
      rw [characterBytes_cons, single, ← later]
      rfl

/-- ASCII characters are the text of their bytes. -/
theorem asciiText_asciiBytes
    {characters : List Char}
    (ascii : ∀ character ∈ characters, character.toNat < 128) :
    asciiText (asciiBytes characters) = String.ofList characters := by
  have same :
      ∀ character ∈ characters,
        Char.ofNat (UInt8.ofNat character.toNat).toNat = character := by
    intro character member
    have small := ascii character member
    rw [UInt8.toNat_ofNat_of_lt' (Nat.lt_trans small (by decide)),
      Char.ofNat_toNat]
  rw [asciiText, asciiBytes, List.map_map]
  exact
    congrArg String.ofList
      ((List.map_congr_left same).trans (List.map_id' characters))

@[simp] theorem asciiText_append (first second : List UInt8) :
    asciiText (first ++ second) = asciiText first ++ asciiText second := by
  simp [asciiText, String.ofList_append]

end Text

namespace Numeral

theorem digit_eq_digitChar
    {value : Nat}
    (small : value < 10) :
    digit value = Nat.digitChar value := by
  have cases :
      ∀ candidate : Fin 10, digit candidate.val = Nat.digitChar candidate.val := by
    decide
  exact cases ⟨value, small⟩

/-- A number in base ten is written as usual. -/
theorem write_ten (value : Nat) :
    write 10 value = Nat.toDigits 10 value := by
  induction value using Nat.strongRecOn with
  | ind value inductionHypothesis =>
      by_cases small : value < 10
      · rw [write_of_lt small, Nat.toDigits_of_lt_base small,
          digit_eq_digitChar small]
      · have large : 10 ≤ value := Nat.le_of_not_lt small
        rw [write_of_le (by omega) large,
          Nat.toDigits_of_base_le (by omega) large,
          inductionHypothesis (value / 10) (by omega),
          digit_eq_digitChar (Nat.mod_lt value (by omega))]

/-- The decimal form of a number is what it is shown as. -/
theorem ofList_write_ten (value : Nat) :
    String.ofList (write 10 value) = toString value := by
  rw [write_ten]
  rfl

/-- Decimal digits are ASCII characters. -/
theorem toNat_lt_of_mem_write_ten
    {value : Nat}
    {character : Char}
    (member : character ∈ write 10 value) :
    character.toNat < 128 := by
  rw [write_ten] at member
  have isDigit := Nat.isDigit_of_mem_toDigits (by decide) (by decide) member
  simp only [Char.isDigit, Bool.and_eq_true, decide_eq_true_eq] at isDigit
  have upper : character.val.toNat ≤ 57 := isDigit.2
  exact Nat.lt_of_le_of_lt upper (by decide)

/-- A decimal number on a line of its own is ASCII. -/
theorem toNat_lt_of_mem_line
    {value : Nat}
    {character : Char}
    (member : character ∈ write 10 value ++ ['\n']) :
    character.toNat < 128 := by
  rcases List.mem_append.mp member with inDigits | isLineFeed
  · exact toNat_lt_of_mem_write_ten inDigits
  · rw [List.mem_singleton.mp isLineFeed]
    decide

end Numeral

end EightBit
