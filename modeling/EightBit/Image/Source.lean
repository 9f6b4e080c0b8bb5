import EightBit.Image.Basic
import EightBit.Text.Blank

namespace EightBit.Image

/-!
# Source text

Source text holds at most one binary literal a line. What follows the first `#`
of a line is a comment, blanks around the literal do not count, and a line
without literal stands for nothing. The first line that is at fault decides
what is wrong with a text; only then does it matter whether the bytes fit.
-/

/-- The part of a line in front of its comment. -/
def codePart (line : List Char) : List Char :=
  line.takeWhile (· ≠ '#')

/-- The literal of a line, empty where the line has none. -/
def literalOf (line : List Char) : List Char :=
  Text.trimEnd (Text.trimStart (codePart line))

/-- The blanks in front of the literal of a line. -/
def indentationOf (line : List Char) : List Char :=
  Text.indentation (codePart line)

/-- The byte of a line, if it holds a literal. -/
def readLine (line : List Char) : Except Misreading (Option UInt8) :=
  if (literalOf line).isEmpty then
    .ok none
  else
    match readLiteral (literalOf line) with
    | .ok byte =>
        .ok (some byte)
    | .error misreading =>
        .error (misreading.shift (Text.byteLength (indentationOf line)))

/--
The bytes of successive lines. A misreading is placed relative to the start of
the first line.
-/
def readLines : List (List Char) → Except Misreading (List UInt8)
  | [] => .ok []
  | line :: rest =>
      match readLine line with
      | .error misreading => .error misreading
      | .ok byte =>
          match readLines rest with
          | .error misreading =>
              .error (misreading.shift (Text.byteLength line))
          | .ok bytes =>
              .ok (byte.toList ++ bytes)

/-- The bytes that the literals of a text stand for, in order. -/
def readText (text : List Char) : Except Misreading (List UInt8) :=
  readLines (Text.lines text)

/-- The image that a source text describes. -/
def parse (source : String) : Except Error Image :=
  match readText source.toList with
  | .error misreading => .error (.misread misreading)
  | .ok bytes => ofBytes bytes

end EightBit.Image
