namespace EightBit.Text

/-!
# Blank characters

The characters with the property `White_Space` in the Unicode character
database: the five controls from tab to carriage return, the space, and
nineteen more beyond the first hundred and twenty-eight code points.
-/

/-- Inclusive ranges of code points with the property `White_Space`, in order. -/
def blankRanges : List (Nat × Nat) :=
  [(0x09, 0x0D), (0x20, 0x20), (0x85, 0x85), (0xA0, 0xA0),
    (0x1680, 0x1680), (0x2000, 0x200A), (0x2028, 0x2029),
    (0x202F, 0x202F), (0x205F, 0x205F), (0x3000, 0x3000)]

/-- Whether a character has the property `White_Space`. -/
def isBlank (character : Char) : Bool :=
  blankRanges.any fun range =>
    range.1 ≤ character.toNat && character.toNat ≤ range.2

/-- The text without the blank characters in front. -/
def trimStart (text : List Char) : List Char :=
  text.dropWhile isBlank

/-- The text without the blank characters at its end. -/
def trimEnd (text : List Char) : List Char :=
  (text.reverse.dropWhile isBlank).reverse

/-- The blank characters that stand in front of a text. -/
def indentation (text : List Char) : List Char :=
  text.takeWhile isBlank

/-- Indentation and trimmed text make up the text. -/
theorem indentation_append_trimStart (text : List Char) :
    indentation text ++ trimStart text = text :=
  List.takeWhile_append_dropWhile

/-- The twenty-five characters with the property `White_Space`, in order. -/
def whiteSpace : List Char :=
  ['\t', '\n', '\x0b', '\x0c', '\r', ' ', '\u0085', '\u00a0', '\u1680',
    '\u2000', '\u2001', '\u2002', '\u2003', '\u2004', '\u2005', '\u2006',
    '\u2007', '\u2008', '\u2009', '\u200a', '\u2028', '\u2029', '\u202f',
    '\u205f', '\u3000']

/-- The ranges hold the code points of these characters and no other. -/
theorem isBlank_iff {character : Char} :
    isBlank character ↔ character ∈ whiteSpace := by
  simp only [isBlank, blankRanges, whiteSpace, List.any_cons, List.any_nil,
    Bool.or_false, Bool.or_eq_true, Bool.and_eq_true, decide_eq_true_eq,
    List.mem_cons, List.not_mem_nil, or_false, ← Char.toNat_inj,
    Char.reduceToNat]
  omega

theorem isBlank_eq_decide :
    isBlank = fun character => decide (character ∈ whiteSpace) := by
  funext character
  rw [Bool.eq_iff_iff, isBlank_iff, decide_eq_true_iff]

end EightBit.Text
