import EightBit.Report
import EightBit.Text.Line

namespace EightBit.Image

/-!
# Binary literals

A literal stands for one byte of an image: one to eight binary digits. What is
wrong with a text that is none is told as a defect with the stretch it is about.
A character that is no digit comes before a literal that is too long.
-/

/-- Why a text is no binary literal of one byte. -/
inductive Defect where
  | badDigit
  | tooWide
  deriving Repr, DecidableEq

/-- A defect and the stretch of text it is about. -/
structure Misreading where
  defect : Defect
  span : Span
  deriving Repr, DecidableEq

/-- The same misreading after a number of bytes has been put in front. -/
def Misreading.shift
    (misreading : Misreading)
    (bytes : Nat) :
    Misreading :=
  { misreading with span := misreading.span.shift bytes }

/-- Whether a character is a binary digit. -/
def isBinaryDigit (character : Char) : Bool :=
  character = '0' || character = '1'

/-- The value of a binary digit. -/
def binaryDigit? : Char → Option Nat
  | '0' => some 0
  | '1' => some 1
  | _ => none

/-- A number with one more binary digit behind it, as long as it is a byte. -/
def appendDigit?
    (value : Nat)
    (character : Char) :
    Option Nat :=
  match binaryDigit? character with
  | none => none
  | some digit =>
      if 2 * value + digit < 256 then
        some (2 * value + digit)
      else
        none

/--
The byte that a number in base two is, if it has a digit, no other character
but one plus sign in front, and is small enough.
-/
def readByte? (text : List Char) : Option UInt8 :=
  let digits :=
    match text with
    | '+' :: rest => rest
    | _ => text
  if digits.isEmpty then
    none
  else
    (digits.foldlM appendDigit? 0).map UInt8.ofNat

/-- The misreading of a literal that is longer than a byte. -/
def Misreading.tooWide (literal : List Char) : Misreading where
  defect := .tooWide
  span := {
    offset := 0
    length := Text.byteLength literal
  }

/-- The misreading of a literal that has some characters in front of a bad one. -/
def Misreading.badDigit
    (digits : List Char)
    (character : Char) :
    Misreading where
  defect := .badDigit
  span := {
    offset := Text.byteLength digits
    length := character.utf8Size
  }

/--
The byte that a literal stands for. What is no byte although it has eight
binary digits at most would be told as too wide.
-/
def readLiteral (literal : List Char) : Except Misreading UInt8 :=
  match literal.dropWhile isBinaryDigit with
  | character :: _ =>
      .error (.badDigit (literal.takeWhile isBinaryDigit) character)
  | [] =>
      if 8 < Text.byteLength literal then
        .error (.tooWide literal)
      else
        match readByte? literal with
        | some byte => .ok byte
        | none => .error (.tooWide literal)

theorem Misreading.shift_shift
    (misreading : Misreading)
    (first second : Nat) :
    (misreading.shift first).shift second =
      misreading.shift (second + first) := by
  simp [Misreading.shift, Span.shift_shift]

end EightBit.Image
