namespace EightBit.Numeral

/-!
# Numerals

Numbers are written in a base of two to sixteen with the digits `0` to `9` and
the capital letters `A` to `F`. `write` uses the fewest digits, `writePadded`
fills up with zeros on the left to a least width, and `read` is the value of a
digit string, most significant digit first.
-/

/-- The character of a digit below sixteen. -/
def digit (value : Nat) : Char :=
  if value < 10 then
    Char.ofNat (48 + value)
  else
    Char.ofNat (55 + value)

/-- The value of a digit character; a character that is no digit counts as zero. -/
def digitValue (character : Char) : Nat :=
  if '0' ≤ character ∧ character ≤ '9' then
    character.toNat - 48
  else if 'A' ≤ character ∧ character ≤ 'F' then
    character.toNat - 55
  else
    0

/-- The fewest digits of a number, most significant first; zero has one digit. -/
def write (base value : Nat) : List Char :=
  if value < base ∨ base < 2 then
    [digit value]
  else
    write base (value / base) ++ [digit (value % base)]
termination_by value
decreasing_by
  exact Nat.div_lt_self (by omega) (by omega)

/-- The digits of a number, filled up with zeros on the left to a least width. -/
def writePadded
    (base width value : Nat) :
    List Char :=
  let digits := write base value
  List.replicate (width - digits.length) '0' ++ digits

/-- The value of a digit string in a base, most significant digit first. -/
def read (base : Nat) (digits : List Char) : Nat :=
  digits.foldl (fun total character => base * total + digitValue character) 0

theorem write_of_lt
    {base value : Nat}
    (small : value < base) :
    write base value = [digit value] := by
  rw [write, if_pos (Or.inl small)]

/-- A number of at least its base is written as its quotient and its last digit. -/
theorem write_of_le
    {base value : Nat}
    (baseValid : 2 ≤ base)
    (large : base ≤ value) :
    write base value =
      write base (value / base) ++ [digit (value % base)] := by
  have notSmall : ¬(value < base ∨ base < 2) := by
    omega
  rw [write, if_neg notSmall]

theorem write_ne_nil (base value : Nat) :
    write base value ≠ [] := by
  rw [write]
  split <;> simp

/-- Reading is a fold, so the last digit weighs one and the rest a base more. -/
theorem read_append_singleton
    (base : Nat)
    (digits : List Char)
    (last : Char) :
    read base (digits ++ [last]) =
      base * read base digits + digitValue last := by
  simp [read, List.foldl_append]

/-- Each of the sixteen digits has the value it was written for. -/
theorem digitValue_digit
    {value : Nat}
    (small : value < 16) :
    digitValue (digit value) = value := by
  have cases :
      ∀ candidate : Fin 16,
        digitValue (digit candidate.val) = candidate.val := by
    decide
  exact cases ⟨value, small⟩

/-- The digits of a number read back as that number. -/
theorem read_write
    {base : Nat}
    (baseValid : 2 ≤ base)
    (baseSmall : base ≤ 16)
    (value : Nat) :
    read base (write base value) = value := by
  induction value using Nat.strongRecOn with
  | ind value inductionHypothesis =>
      by_cases small : value < base
      · rw [write_of_lt small]
        simp [read, digitValue_digit (Nat.lt_of_lt_of_le small baseSmall)]
      · have large : base ≤ value := Nat.le_of_not_lt small
        have quotientSmaller : value / base < value :=
          Nat.div_lt_self (by omega) (by omega)
        have remainderSmall : value % base < 16 :=
          Nat.lt_of_lt_of_le (Nat.mod_lt _ (by omega)) baseSmall
        rw [write_of_le baseValid large, read_append_singleton,
          inductionHypothesis _ quotientSmaller,
          digitValue_digit remainderSmall]
        exact Nat.div_add_mod value base

/-- Zeros in front of a digit string do not change its value. -/
theorem read_replicate_zero_append
    (base count : Nat)
    (digits : List Char) :
    read base (List.replicate count '0' ++ digits) = read base digits := by
  induction count with
  | zero =>
      simp
  | succ count inductionHypothesis =>
      rw [← inductionHypothesis]
      simp [read, List.replicate_succ, digitValue]

/-- Padded digits read back as the number they were written for. -/
theorem read_writePadded
    {base : Nat}
    (baseValid : 2 ≤ base)
    (baseSmall : base ≤ 16)
    (width value : Nat) :
    read base (writePadded base width value) = value := by
  rw [writePadded, read_replicate_zero_append, read_write baseValid baseSmall]

end EightBit.Numeral
