import EightBit.Text.Numeral
import Mathlib.Algebra.Group.Nat.Defs

namespace EightBit.Numeral

/-!
# Digits of numerals

A number is written with digits below its base, and with no more of them than hold
it. So padding to a width that holds the number gives exactly that many digits, and
a number that the width does not hold has more.
-/

section Base

variable
  {base : Nat}
  (baseValid : 2 ≤ base)

include baseValid

/-- Every character of a number is a digit below its base. -/
theorem exists_digit_of_mem_write
    {value : Nat}
    {character : Char}
    (member : character ∈ write base value) :
    ∃ bit, bit < base ∧ character = digit bit := by
  induction value using Nat.strongRecOn with
  | ind value inductionHypothesis =>
      by_cases small : value < base
      · rw [write_of_lt small, List.mem_singleton] at member
        exact ⟨value, small, member⟩
      · have large : base ≤ value := Nat.le_of_not_lt small
        have quotientSmaller : value / base < value :=
          Nat.div_lt_self (by omega) (by omega)
        rw [write_of_le baseValid large, List.mem_append,
          List.mem_singleton] at member
        rcases member with inQuotient | isLast
        · exact inductionHypothesis _ quotientSmaller inQuotient
        · exact ⟨value % base, Nat.mod_lt _ (by omega), isLast⟩

theorem exists_digit_of_mem_writePadded
    {width value : Nat}
    {character : Char}
    (member : character ∈ writePadded base width value) :
    ∃ bit, bit < base ∧ character = digit bit := by
  rcases List.mem_append.mp member with isFilling | inDigits
  · exact ⟨0, by omega, List.eq_of_mem_replicate isFilling⟩
  · exact exists_digit_of_mem_write baseValid inDigits

/-- A number is written with no more digits than hold it. -/
theorem length_write_le
    {width value : Nat}
    (positive : 1 ≤ width)
    (holds : value < base ^ width) :
    (write base value).length ≤ width := by
  induction width generalizing value with
  | zero =>
      omega
  | succ width inductionHypothesis =>
      by_cases small : value < base
      · rw [write_of_lt small]
        exact positive
      · have large : base ≤ value := Nat.le_of_not_lt small
        have quotientHeld : value / base < base ^ width :=
          Nat.div_lt_of_lt_mul (by rwa [Nat.pow_succ'] at holds)
        have someWidth : 1 ≤ width := by
          rcases Nat.eq_zero_or_pos width with rfl | positive
          · rw [Nat.zero_add, Nat.pow_one] at holds
            exact absurd holds small
          · exact positive
        have shorter := inductionHypothesis someWidth quotientHeld
        rw [write_of_le baseValid large, List.length_append,
          List.length_singleton]
        exact Nat.succ_le_succ shorter

/-- A number that a width holds is padded to that width. -/
theorem length_writePadded
    {width value : Nat}
    (positive : 1 ≤ width)
    (holds : value < base ^ width) :
    (writePadded base width value).length = width := by
  have enough := length_write_le baseValid positive holds
  rw [writePadded, List.length_append, List.length_replicate]
  exact Nat.sub_add_cancel enough

/-- A number that a width does not hold has more digits. -/
theorem lt_length_write
    {width value : Nat}
    (exceeds : base ^ width ≤ value) :
    width < (write base value).length := by
  induction width generalizing value with
  | zero =>
      exact List.length_pos_iff.mpr (write_ne_nil base value)
  | succ width inductionHypothesis =>
      have large : base ≤ value :=
        Nat.le_trans (Nat.le_pow (Nat.succ_pos width)) exceeds
      have quotientExceeds : base ^ width ≤ value / base := by
        rw [Nat.le_div_iff_mul_le (by omega), ← Nat.pow_succ]
        exact exceeds
      rw [write_of_le baseValid large, List.length_append,
        List.length_singleton]
      exact Nat.succ_lt_succ (inductionHypothesis quotientExceeds)

/-- Padding is exceeded by exactly the numbers that its width does not hold. -/
theorem lt_length_writePadded_iff
    {width value : Nat}
    (positive : 1 ≤ width) :
    width < (writePadded base width value).length ↔
      base ^ width ≤ value := by
  constructor
  · intro longer
    refine Nat.not_lt.mp fun fits => ?_
    have padded := length_writePadded baseValid positive fits
    exact Nat.ne_of_lt longer padded.symm
  · intro exceeds
    have longer := lt_length_write baseValid exceeds
    rw [writePadded, List.length_append]
    exact Nat.lt_add_left _ longer

end Base

/-! ## What digits are not -/

section NoDigit

variable
  {character : Char}
  (noDigit : ∀ bit : Fin 16, digit bit.val ≠ character)
  {base : Nat}
  (baseValid : 2 ≤ base)
  (baseSmall : base ≤ 16)

include noDigit baseValid baseSmall

/-- A character that is none of the sixteen digits is in no number. -/
theorem not_mem_write (value : Nat) :
    character ∉ write base value := by
  intro member
  obtain ⟨bit, isBit, same⟩ := exists_digit_of_mem_write baseValid member
  exact noDigit ⟨bit, Nat.lt_of_lt_of_le isBit baseSmall⟩ same.symm

theorem not_mem_writePadded (width value : Nat) :
    character ∉ writePadded base width value := by
  intro member
  obtain ⟨bit, isBit, same⟩ :=
    exists_digit_of_mem_writePadded baseValid member
  exact noDigit ⟨bit, Nat.lt_of_lt_of_le isBit baseSmall⟩ same.symm

end NoDigit

end EightBit.Numeral
