import EightBit.Console.Basic

namespace EightBit.Console

/-!
# Operations on the console

What is done with a console: turn minimal mode on or off, ask for it, and have text
shown by one of the routes. Minimal mode is all that an operation leaves to the next.
-/

/-- Something that is done with a console. -/
inductive Operation where
  | setMinimal (minimal : Bool)
  | isMinimal
  | status (text : String)
  | diagnostic (text : String)
  | diagnosticLine (text : String)
  | message (color : Color) (verb subject : String)
  deriving Repr, DecidableEq

/-- What comes of an operation: what it returns, if anything, and what is shown. -/
structure Response where
  returned : Option Bool
  shown : String
  deriving Repr, DecidableEq

/-- The response that shows a text and returns nothing. -/
def Response.showing (text : String) : Response where
  returned := none
  shown := text

/-- The response that returns a flag and shows nothing. -/
def Response.returning (flag : Bool) : Response where
  returned := some flag
  shown := ""

/-- Do one operation; minimal mode is returned as it was before it is set. -/
def perform
    (console : Console) :
    Operation → Response × Console
  | .setMinimal minimal =>
      (.returning console.minimal, { console with minimal := minimal })
  | .isMinimal =>
      (.returning console.minimal, console)
  | .status text =>
      (.showing (console.status text), console)
  | .diagnostic text =>
      (.showing (console.diagnostic text), console)
  | .diagnosticLine text =>
      (.showing (console.diagnosticLine text), console)
  | .message color verb subject =>
      (.showing (console.message color verb subject), console)

/-- The console behind operations. -/
def after
    (console : Console)
    (operations : List Operation) :
    Console :=
  operations.foldl
    (fun current operation => (current.perform operation).2) console

end EightBit.Console
