import EightBit.Image.Literal
import Mathlib.Data.List.TakeWhile
import Mathlib.Data.Nat.Digits.Defs
import Mathlib.Tactic.Ring

namespace EightBit.Image

/-!
# Which literals stand for a byte

A literal of one to eight binary digits stands for its value in base two. Any
other non-empty literal is misread: at its first character that is no binary
digit, or as a whole if all of its more than eight characters are. The
conversion to a byte, once it is tried, always succeeds.
-/

/-- A text of binary digits only. -/
def IsBinary (text : List Char) : Prop :=
  ∀ character ∈ text, character = '0' ∨ character = '1'

instance (text : List Char) : Decidable (IsBinary text) :=
  inferInstanceAs
    (Decidable (∀ character ∈ text, character = '0' ∨ character = '1'))

/-- A literal of one to eight binary digits. -/
def IsByteLiteral (literal : List Char) : Prop :=
  1 ≤ literal.length ∧ literal.length ≤ 8 ∧ IsBinary literal

instance (literal : List Char) : Decidable (IsByteLiteral literal) :=
  inferInstanceAs
    (Decidable
      (1 ≤ literal.length ∧ literal.length ≤ 8 ∧ IsBinary literal))

/-- The number that binary digits stand for, the last of weight one. -/
def binaryValue (literal : List Char) : Nat :=
  Nat.ofDigits 2
    (literal.reverse.map fun character => if character = '1' then 1 else 0)

theorem IsByteLiteral.ne_nil
    {literal : List Char}
    (valid : IsByteLiteral literal) :
    literal ≠ [] := by
  rintro rfl
  exact absurd valid.1 (by decide)

/-- What is wrong with a literal, by its characters. -/
inductive Misread : List Char → Misreading → Prop where
  | badDigit
      {digits rest : List Char}
      {character : Char}
      (binary : IsBinary digits)
      (noDigit : character ≠ '0' ∧ character ≠ '1') :
      Misread (digits ++ character :: rest) (.badDigit digits character)
  | tooWide
      {literal : List Char}
      (binary : IsBinary literal)
      (wide : 8 < literal.length) :
      Misread literal (.tooWide literal)

theorem isBinary_cons
    {character : Char}
    {rest : List Char} :
    IsBinary (character :: rest) ↔
      (character = '0' ∨ character = '1') ∧ IsBinary rest := by
  simp [IsBinary]

theorem not_isBinary_append_cons
    {digits rest : List Char}
    {character : Char}
    (noDigit : character ≠ '0' ∧ character ≠ '1') :
    ¬IsBinary (digits ++ character :: rest) := by
  intro binary
  have member : character ∈ digits ++ character :: rest :=
    List.mem_append_right _ List.mem_cons_self
  rcases binary character member with isZero | isOne
  · exact noDigit.1 isZero
  · exact noDigit.2 isOne

theorem isBinaryDigit_iff {character : Char} :
    isBinaryDigit character ↔ character = '0' ∨ character = '1' := by
  simp [isBinaryDigit]

theorem byteLength_of_isBinary
    {text : List Char}
    (binary : IsBinary text) :
    Text.byteLength text = text.length := by
  induction text with
  | nil =>
      rfl
  | cons character rest inductionHypothesis =>
      obtain ⟨digit, restBinary⟩ := isBinary_cons.mp binary
      rw [Text.byteLength_cons, inductionHypothesis restBinary,
        List.length_cons, Nat.add_comm]
      rcases digit with rfl | rfl <;> rfl

/-- The first digit weighs one more than all numbers of the digits behind it. -/
theorem binaryValue_cons
    (character : Char)
    (rest : List Char) :
    binaryValue (character :: rest) =
      (if character = '1' then 1 else 0) * 2 ^ rest.length +
        binaryValue rest := by
  simp only [binaryValue, List.reverse_cons, List.map_append, List.map_cons,
    List.map_nil, Nat.ofDigits_append, Nat.ofDigits_singleton,
    List.length_map, List.length_reverse]
  ring

/-- Appending binary digits to a number works as long as it leaves a byte. -/
theorem foldlM_appendDigit?
    {digits : List Char}
    (binary : IsBinary digits)
    {start : Nat}
    (small : (start + 1) * 2 ^ digits.length ≤ 256) :
    digits.foldlM appendDigit? start =
      some (start * 2 ^ digits.length + binaryValue digits) := by
  induction digits generalizing start with
  | nil =>
      simp [binaryValue]
  | cons character rest inductionHypothesis =>
      obtain ⟨digit, restBinary⟩ := isBinary_cons.mp binary
      have power : 0 < 2 ^ rest.length := Nat.two_pow_pos _
      rw [List.length_cons, pow_succ] at small
      -- One digit doubles the start and halves what the rest may add to it.
      have next :
          ∀ bit,
            bit ≤ 1 →
            (2 * start + bit + 1) * 2 ^ rest.length ≤ 256 := by
        intro bit isBit
        calc (2 * start + bit + 1) * 2 ^ rest.length
            ≤ ((start + 1) * 2) * 2 ^ rest.length :=
              Nat.mul_le_mul_right _ (by omega)
          _ = (start + 1) * (2 ^ rest.length * 2) := by ring
          _ ≤ 256 := small
      have fits :
          ∀ bit, bit ≤ 1 → 2 * start + bit < 256 := by
        intro bit isBit
        have bound := next bit isBit
        have grown := Nat.le_mul_of_pos_right (2 * start + bit + 1) power
        omega
      have step :
          ∀ bit,
            bit ≤ 1 →
            rest.foldlM appendDigit? (2 * start + bit) =
              some (start * 2 ^ (rest.length + 1) +
                (bit * 2 ^ rest.length + binaryValue rest)) := by
        intro bit isBit
        rw [inductionHypothesis restBinary (next bit isBit)]
        congr 1
        ring
      rw [List.foldlM_cons, List.length_cons, binaryValue_cons]
      rcases digit with rfl | rfl
      · have appended : appendDigit? start '0' = some (2 * start + 0) :=
          if_pos (fits 0 (by omega))
        rw [appended, Option.bind_eq_bind, Option.bind_some, step 0 (by omega)]
        rfl
      · have appended : appendDigit? start '1' = some (2 * start + 1) :=
          if_pos (fits 1 (by omega))
        rw [appended, Option.bind_eq_bind, Option.bind_some, step 1 (by omega)]
        rfl

/-- Binary digits stand for a number that is less than two to their number. -/
theorem binaryValue_lt
    (literal : List Char) :
    binaryValue literal < 2 ^ literal.length := by
  induction literal with
  | nil =>
      exact Nat.one_pos
  | cons character rest inductionHypothesis =>
      have bit : (if character = '1' then 1 else 0) ≤ 1 := by
        split <;> omega
      have first :
          (if character = '1' then 1 else 0) * 2 ^ rest.length ≤
            1 * 2 ^ rest.length :=
        Nat.mul_le_mul_right _ bit
      rw [binaryValue_cons, List.length_cons, pow_succ]
      omega

/-- The value of a literal that stands for a byte fits into the byte. -/
theorem toNat_ofNat_binaryValue
    {literal : List Char}
    (valid : IsByteLiteral literal) :
    (UInt8.ofNat (binaryValue literal)).toNat = binaryValue literal := by
  have short : 2 ^ literal.length ≤ 2 ^ 8 :=
    Nat.pow_le_pow_right (by omega) valid.2.1
  have small := binaryValue_lt literal
  rw [UInt8.toNat_ofNat']
  omega

/-- The conversion to a byte succeeds for every literal it is tried for. -/
theorem readByte?_of_isByteLiteral
    {literal : List Char}
    (valid : IsByteLiteral literal) :
    readByte? literal = some (UInt8.ofNat (binaryValue literal)) := by
  obtain ⟨nonempty, short, binary⟩ := valid
  have small : (0 + 1) * 2 ^ literal.length ≤ 256 := by
    have bound : 2 ^ literal.length ≤ 2 ^ 8 :=
      Nat.pow_le_pow_right (by omega) short
    omega
  have value := foldlM_appendDigit? binary small
  rw [Nat.zero_mul, Nat.zero_add] at value
  cases literal with
  | nil =>
      simp at nonempty
  | cons character rest =>
      have noSign : character ≠ '+' := by
        rintro rfl
        simp [isBinary_cons] at binary
      simp [readByte?, noSign, value]

/-- One to eight binary digits are read as the byte they stand for. -/
theorem readLiteral_of_isByteLiteral
    {literal : List Char}
    (valid : IsByteLiteral literal) :
    readLiteral literal = .ok (UInt8.ofNat (binaryValue literal)) := by
  have noBadDigit : literal.dropWhile isBinaryDigit = [] := by
    rw [List.dropWhile_eq_nil_iff]
    intro character member
    exact isBinaryDigit_iff.mpr (valid.2.2 character member)
  have narrow : ¬8 < Text.byteLength literal := by
    rw [byteLength_of_isBinary valid.2.2]
    exact Nat.not_lt.mpr valid.2.1
  rw [readLiteral, noBadDigit]
  simp only [narrow, if_false, readByte?_of_isByteLiteral valid]

/-- Every other literal with a character in it is misread. -/
theorem exists_misread
    {literal : List Char}
    (nonempty : literal ≠ [])
    (invalid : ¬IsByteLiteral literal) :
    ∃ misreading,
      Misread literal misreading ∧
        readLiteral literal = .error misreading := by
  have parts :
      literal.takeWhile isBinaryDigit ++ literal.dropWhile isBinaryDigit =
        literal :=
    List.takeWhile_append_dropWhile
  have digitsBinary : IsBinary (literal.takeWhile isBinaryDigit) := by
    intro character member
    exact isBinaryDigit_iff.mp (List.mem_takeWhile_imp member)
  cases behind : literal.dropWhile isBinaryDigit with
  | cons character rest =>
      have noDigit : ¬isBinaryDigit character := by
        have head := List.head?_dropWhile_not isBinaryDigit literal
        simpa [behind] using head
      rw [isBinaryDigit_iff, not_or] at noDigit
      rw [behind] at parts
      refine ⟨.badDigit (literal.takeWhile isBinaryDigit) character, ?_, ?_⟩
      · have misread := @Misread.badDigit _ rest _ digitsBinary noDigit
        rwa [parts] at misread
      · rw [readLiteral, behind]
  | nil =>
      rw [behind, List.append_nil] at parts
      rw [parts] at digitsBinary
      have wide : 8 < literal.length := by
        have positive := List.length_pos_iff.mpr nonempty
        have notShort :=
          fun short => invalid ⟨positive, short, digitsBinary⟩
        exact Nat.lt_of_not_le notShort
      refine ⟨.tooWide literal, .tooWide digitsBinary wide, ?_⟩
      rw [readLiteral, behind]
      simp only [byteLength_of_isBinary digitsBinary, wide, if_true]

theorem Misread.ne_nil
    {literal : List Char}
    {misreading : Misreading}
    (misread : Misread literal misreading) :
    literal ≠ [] := by
  cases misread with
  | badDigit binary noDigit =>
      exact List.append_ne_nil_of_right_ne_nil _ (List.cons_ne_nil _ _)
  | tooWide binary wide =>
      exact List.length_pos_iff.mp (by omega)

theorem Misread.not_isByteLiteral
    {literal : List Char}
    {misreading : Misreading}
    (misread : Misread literal misreading) :
    ¬IsByteLiteral literal := by
  rintro ⟨-, short, allBinary⟩
  cases misread with
  | badDigit binary noDigit =>
      exact not_isBinary_append_cons noDigit allBinary
  | tooWide binary wide =>
      omega

end EightBit.Image
