import EightBit.Console.Color
import EightBit.Machine.Outcome

namespace EightBit

/-!
# The console

Where a session talks to its operator. Status text tells of progress and is
left out in minimal mode; diagnostic text tells of the machine and is always
shown, though without color in minimal mode. Program output never passes
through here.
-/

/-- How text is shown to the operator. -/
structure Console where
  /-- Whether colors are shown. -/
  colored : Bool
  /-- Whether progress is left out. -/
  minimal : Bool
  deriving Repr, DecidableEq

namespace Console

/-- Least number of characters of the verb in front of a message. -/
def verbWidth : Nat :=
  12

/-- A text in a color, aligned to the right within a width. -/
def paint
    (console : Console)
    (color : Color)
    (width : Nat)
    (text : String) :
    String :=
  if console.colored then
    String.ofList (Style.paint color.parameter width text.toList)
  else
    String.ofList (Style.alignRight width text.toList)

/-- What is shown for a status text. -/
def status
    (console : Console)
    (text : String) :
    String :=
  if console.minimal then
    ""
  else
    text

/-- What is shown for a diagnostic text. -/
def diagnostic
    (console : Console)
    (text : String) :
    String :=
  if console.minimal then
    text
  else
    console.paint .yellow 0 text

/-- What is shown for a diagnostic text on a line of its own. -/
def diagnosticLine
    (console : Console)
    (text : String) :
    String :=
  console.diagnostic (text ++ "\n")

/-- What is shown for a message: a colored verb and what it is about. -/
def message
    (console : Console)
    (color : Color)
    (verb subject : String) :
    String :=
  console.status
    (console.paint color verbWidth verb ++ " " ++ subject ++ "\n")

/-- What is shown for the notices of a machine. -/
def notices
    (console : Console)
    (given : List Notice) :
    String :=
  String.join (given.map fun notice => console.diagnosticLine notice.text)

@[simp] theorem status_of_minimal
    {console : Console}
    (minimal : console.minimal = true)
    (text : String) :
    console.status text = "" := by
  simp [status, minimal]

@[simp] theorem message_of_minimal
    {console : Console}
    (minimal : console.minimal = true)
    (color : Color)
    (verb subject : String) :
    console.message color verb subject = "" := by
  simp [message, minimal]

end Console

end EightBit
