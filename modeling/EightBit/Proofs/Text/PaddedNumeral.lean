import EightBit.Proofs.Text.Numeral
import Mathlib.Data.List.Basic
import Mathlib.Data.List.Induction

namespace EightBit.Numeral

/-!
# Padded numerals

A text is a number that is filled up with zeros to a least width if it consists of
digits, has that width, and starts with no zero if it is longer. Each number has one
such text, so such a text can be read and written again.
-/

/-- All characters of a text are digits below a base. -/
def AreDigits
    (base : Nat)
    (text : List Char) :
    Prop :=
  ∀ character ∈ text, ∃ bit, bit < base ∧ character = digit bit

instance
    (base : Nat)
    (text : List Char) :
    Decidable (AreDigits base text) :=
  List.decidableBAll _ text

/-- A text of digits that is filled up with zeros to a least width, but not beyond. -/
structure IsPadded
    (base width : Nat)
    (text : List Char) :
    Prop where
  areDigits : AreDigits base text
  filled : width ≤ text.length
  noFurther : width < text.length → text.head? ≠ some '0'

instance
    (base width : Nat)
    (text : List Char) :
    Decidable (IsPadded base width text) :=
  decidable_of_iff
    (AreDigits base text ∧
      width ≤ text.length ∧
        (width < text.length → text.head? ≠ some '0'))
    ⟨fun ⟨areDigits, filled, noFurther⟩ => ⟨areDigits, filled, noFurther⟩,
      fun ⟨areDigits, filled, noFurther⟩ => ⟨areDigits, filled, noFurther⟩⟩

/-- A number that fills the width is not padded. -/
theorem writePadded_of_le
    {base width value : Nat}
    (fills : width ≤ (write base value).length) :
    writePadded base width value = write base value := by
  rw [writePadded, Nat.sub_eq_zero_of_le fills, List.replicate_zero,
    List.nil_append]

section Base

variable
  {base : Nat}
  (baseValid : 2 ≤ base)

include baseValid

/-- One more digit of width is the last digit behind the padded quotient. -/
theorem writePadded_succ
    {width : Nat}
    (positive : 1 ≤ width)
    (value : Nat) :
    writePadded base (width + 1) value =
      writePadded base width (value / base) ++ [digit (value % base)] := by
  by_cases small : value < base
  · have noQuotient : value / base = 0 := Nat.div_eq_of_lt small
    have zeros :
        writePadded base width 0 = List.replicate width '0' := by
      obtain ⟨rest, rfl⟩ := Nat.exists_eq_add_of_le' positive
      rw [writePadded, write_of_lt (by omega), List.replicate_succ']
      rfl
    rw [noQuotient, zeros, Nat.mod_eq_of_lt small, writePadded,
      write_of_lt small, List.length_singleton, Nat.add_sub_cancel]
  · have large : base ≤ value := Nat.le_of_not_lt small
    rw [writePadded, writePadded, write_of_le baseValid large,
      List.length_append, List.length_singleton, Nat.add_sub_add_right,
      List.append_assoc]

/-- A number that is not zero starts with a digit that is not zero. -/
theorem head?_write_ne_zero
    (baseSmall : base ≤ 16)
    {value : Nat}
    (positive : 0 < value) :
    (write base value).head? ≠ some '0' := by
  induction value using Nat.strongRecOn with
  | ind value inductionHypothesis =>
      by_cases small : value < base
      · have isDigit : digitValue (digit value) = value :=
          digitValue_digit (Nat.lt_of_lt_of_le small baseSmall)
        rw [write_of_lt small, List.head?_singleton]
        intro isZero
        rw [Option.some.inj isZero] at isDigit
        exact Nat.ne_of_lt positive isDigit
      · have large : base ≤ value := Nat.le_of_not_lt small
        have quotientSmaller : value / base < value :=
          Nat.div_lt_self positive baseValid
        have quotientPositive : 0 < value / base :=
          Nat.div_pos large (by omega)
        rw [write_of_le baseValid large,
          List.head?_append_of_ne_nil _ (write_ne_nil _ _)]
        exact inductionHypothesis _ quotientSmaller quotientPositive

/-- Digits are what their value is written as in their own width. -/
theorem writePadded_read
    (baseSmall : base ≤ 16)
    {text : List Char}
    (nonempty : text ≠ [])
    (areDigits : AreDigits base text) :
    writePadded base text.length (read base text) = text := by
  induction text using List.reverseRecOn with
  | nil =>
      exact absurd rfl nonempty
  | append_singleton front last inductionHypothesis =>
      obtain ⟨frontDigits, lastDigit⟩ := List.forall_mem_append.mp areDigits
      obtain ⟨bit, isBit, rfl⟩ :=
        lastDigit last (List.mem_singleton_self last)
      have isDigit : digitValue (digit bit) = bit :=
        digitValue_digit (Nat.lt_of_lt_of_le isBit baseSmall)
      rw [read_append_singleton, isDigit, List.length_append,
        List.length_singleton]
      by_cases alone : front = []
      · subst front
        have value : base * read base [] + bit = bit := by
          simp [read]
        rw [value, writePadded, write_of_lt isBit]
        rfl
      · have quotient :
            (base * read base front + bit) / base = read base front := by
          rw [Nat.mul_add_div (by omega), Nat.div_eq_of_lt isBit,
            Nat.add_zero]
        rw [writePadded_succ baseValid (List.length_pos_iff.mpr alone),
          quotient, Nat.mul_add_mod, Nat.mod_eq_of_lt isBit,
          inductionHypothesis alone frontDigits]

/-- Digits that start with no zero are what their value is written as. -/
theorem write_read
    (baseSmall : base ≤ 16)
    {text : List Char}
    (nonempty : text ≠ [])
    (areDigits : AreDigits base text)
    (noZero : text.head? ≠ some '0') :
    write base (read base text) = text := by
  have whole := writePadded_read baseValid baseSmall nonempty areDigits
  rw [writePadded] at whole
  -- Were there fewer digits than in the text, the text would start with a filling zero.
  cases missing : text.length - (write base (read base text)).length with
  | zero =>
      rwa [missing] at whole
  | succ count =>
      rw [missing, List.replicate_succ, List.cons_append] at whole
      rw [← whole] at noZero
      exact absurd List.head?_cons noZero

section Width

variable
  {width : Nat}
  (positive : 1 ≤ width)
  (baseSmall : base ≤ 16)

include positive baseSmall

/-- A number is filled up to its width, and not beyond. -/
theorem isPadded_writePadded (value : Nat) :
    IsPadded base width (writePadded base width value) where
  areDigits _ := exists_digit_of_mem_writePadded baseValid
  filled := by
    rw [writePadded, List.length_append, List.length_replicate]
    omega
  noFurther longer := by
    have exceeds : base ^ width ≤ value :=
      (lt_length_writePadded_iff baseValid positive).mp longer
    have valuePositive : 0 < value :=
      Nat.lt_of_lt_of_le (Nat.pow_pos (by omega)) exceeds
    have fills := Nat.le_of_lt (lt_length_write baseValid exceeds)
    rw [writePadded_of_le fills]
    exact head?_write_ne_zero baseValid baseSmall valuePositive

/-- A text that is filled up to a width is what its value is written as. -/
theorem IsPadded.writePadded_read
    {text : List Char}
    (padded : IsPadded base width text) :
    writePadded base width (read base text) = text := by
  have nonempty : text ≠ [] :=
    List.length_pos_iff.mp (Nat.le_trans positive padded.filled)
  rcases Nat.eq_or_lt_of_le padded.filled with same | longer
  · rw [same]
    exact
      Numeral.writePadded_read baseValid baseSmall nonempty padded.areDigits
  · have unpadded : write base (read base text) = text :=
      write_read baseValid baseSmall nonempty padded.areDigits
        (padded.noFurther longer)
    have fills : width ≤ (write base (read base text)).length := by
      rw [unpadded]
      exact padded.filled
    rw [writePadded_of_le fills, unpadded]

/-- The padded texts are the numbers that are filled up to the width. -/
theorem isPadded_and_read_eq_iff
    {text : List Char}
    {value : Nat} :
    IsPadded base width text ∧ read base text = value ↔
      text = writePadded base width value := by
  constructor
  · rintro ⟨padded, rfl⟩
    exact (padded.writePadded_read baseValid positive baseSmall).symm
  · rintro rfl
    exact ⟨isPadded_writePadded baseValid positive baseSmall value,
      read_writePadded baseValid baseSmall width value⟩

end Width

end Base

end EightBit.Numeral
