import EightBit.Image.Literal
import EightBit.Machine.Memory
import EightBit.Text.Numeral

namespace EightBit

/-!
# Program images

An image is a byte string that fits into memory. It is made from raw bytes, or
read from source text; either way it is refused only for what `Image.Error`
names.
-/

/-- The bytes that are copied into memory from address zero on. -/
structure Image where
  bytes : List UInt8
  fits : bytes.length ≤ Memory.size
  deriving Repr, DecidableEq

namespace Image

/-- Why something is no image. -/
inductive Error where
  | misread (misreading : Misreading)
  | tooLarge (length : Nat)
  deriving Repr, DecidableEq

/-- The image of raw bytes. -/
def ofBytes (bytes : List UInt8) : Except Error Image :=
  if fits : bytes.length ≤ Memory.size then
    .ok ⟨bytes, fits⟩
  else
    .error (.tooLarge bytes.length)

/-- Number of bytes of an image. -/
def length (image : Image) : Nat :=
  image.bytes.length

/-- Whether an image has no byte at all. -/
def isEmpty (image : Image) : Bool :=
  image.bytes.isEmpty

namespace Error

/-- The code that names the kind of an error. -/
def code : Error → String
  | .misread ⟨.badDigit, _⟩ => "load::bad_digit"
  | .misread ⟨.tooWide, _⟩ => "load::too_wide"
  | .tooLarge _ => "load::too_large"

/-- The wording of an error. -/
def message : Error → String
  | .misread ⟨.badDigit, _⟩ =>
      "Encountered an invalid digit in a binary literal."
  | .misread ⟨.tooWide, _⟩ =>
      "Binary literal does not fit in a byte."
  | .tooLarge length =>
      "Program of " ++ String.ofList (Numeral.write 10 length) ++
        " bytes does not fit in memory."

/-- Advice on an error. -/
def help : Error → String
  | .misread ⟨.badDigit, _⟩ =>
      "each instruction line must be a binary literal like 10000010"
  | .misread ⟨.tooWide, _⟩ =>
      "memory cells hold 8 bits; split wider values across several lines"
  | .tooLarge _ =>
      "the program image can be at most " ++
        String.ofList (Numeral.write 10 Memory.size) ++ " bytes"

/-- The remarks on the source text that an error makes. -/
def labels : Error → List Label
  | .misread ⟨.badDigit, span⟩ => [⟨span, "not a binary digit"⟩]
  | .misread ⟨.tooWide, span⟩ => [⟨span, "more than 8 bits"⟩]
  | .tooLarge _ => []

/-- An error as it is shown to its reader. -/
def report (error : Error) : Report where
  code := some error.code
  message := error.message
  help := some error.help
  severity := some .error
  labels := error.labels

end Error

/-- Bytes make an image exactly if they fit into memory. -/
theorem ofBytes_eq_ok_iff
    {bytes : List UInt8}
    {image : Image} :
    ofBytes bytes = .ok image ↔
      bytes.length ≤ Memory.size ∧ image.bytes = bytes := by
  rcases image with ⟨imageBytes, imageFits⟩
  unfold ofBytes
  split
  · simp [*, eq_comm]
  · simp [*]

/-- Bytes that do not fit are refused with their number. -/
theorem ofBytes_eq_error_iff
    {bytes : List UInt8}
    {error : Error} :
    ofBytes bytes = .error error ↔
      Memory.size < bytes.length ∧ error = .tooLarge bytes.length := by
  unfold ofBytes
  split
  · simp [Nat.not_lt.mpr, *]
  · simp [Nat.lt_of_not_le, *, eq_comm]

end Image

end EightBit
