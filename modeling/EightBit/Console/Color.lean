namespace EightBit

/-!
# Colored text

A terminal shows text in a color between an escape sequence that starts the
style and one that resets it. Where the text itself resets the style, the style
is started again behind that.
-/

/-- The colors of the console. -/
inductive Color where
  | red
  | green
  | yellow
  | cyan
  deriving Repr, DecidableEq

namespace Color

/-- The parameter of the escape sequence that starts a color. -/
def parameter : Color → String
  | .red => "31"
  | .green => "32"
  | .yellow => "33"
  | .cyan => "36"

end Color

namespace Style

/-- The escape sequence that starts a style of the given parameters. -/
def start (parameters : String) : List Char :=
  ['\x1b', '['] ++ parameters.toList ++ ['m']

/-- The escape sequence that resets every style. -/
def reset : List Char :=
  ['\x1b', '[', '0', 'm']

/-- Start a style again behind every reset that a text holds. -/
def restart (opening : List Char) : List Char → List Char
  | '\x1b' :: '[' :: '0' :: 'm' :: rest =>
      reset ++ opening ++ restart opening rest
  | character :: rest =>
      character :: restart opening rest
  | [] => []

/-- A text with blanks in front of it up to a least number of characters. -/
def alignRight
    (width : Nat)
    (text : List Char) :
    List Char :=
  List.replicate (width - text.length) ' ' ++ text

/--
A text in a style, aligned to the right within a width; the filling blanks have
the style too.
-/
def paint
    (parameters : String)
    (width : Nat)
    (text : List Char) :
    List Char :=
  start parameters ++
    alignRight width (restart (start parameters) text) ++ reset

/-- A text that holds no escape character is left alone by a restart. -/
theorem restart_of_not_mem
    (opening : List Char)
    {text : List Char}
    (plain : '\x1b' ∉ text) :
    restart opening text = text := by
  induction text with
  | nil =>
      rfl
  | cons character rest inductionHypothesis =>
      have headPlain : character ≠ '\x1b' := fun same =>
        plain (by simp [same])
      have restPlain : '\x1b' ∉ rest := fun member =>
        plain (List.mem_cons_of_mem _ member)
      rw [restart, inductionHypothesis restPlain]
      intro tail shape
      simp_all

end Style

end EightBit
