namespace EightBit

/-!
# Arguments, flags and commands

An argument is a word unless it starts with a dash and goes on. A flag is raised
by its long name, which cannot be shortened, or by its letter; letters may be
joined. A command is named by a word.
-/

/-- One argument by its form. -/
inductive Argument where
  | separator
  | long (name : List Char)
  | short (letters : List Char)
  | word (text : String)
  deriving Repr, DecidableEq

/-- The form of an argument; a dash alone is a word. -/
def Argument.ofText (text : String) : Argument :=
  match text.toList with
  | ['-', '-'] => .separator
  | '-' :: '-' :: name => .long name
  | '-' :: letter :: letters => .short (letter :: letters)
  | _ => .word text

/-- What an argument other than a word can ask a command for. -/
inductive Flag where
  | trace
  | minimal
  | help
  deriving Repr, DecidableEq

namespace Flag

/-- The flag of a long name. -/
def ofName? (name : List Char) : Option Flag :=
  if name = "trace".toList then
    some .trace
  else if name = "minimal".toList then
    some .minimal
  else if name = "help".toList then
    some .help
  else
    none

/-- The flag of a letter. -/
def ofLetter? : Char → Option Flag
  | 't' => some .trace
  | 'm' => some .minimal
  | 'h' => some .help
  | _ => none

end Flag

/-- What can be done with a program, and how to learn about it. -/
inductive Command where
  | run
  | check
  | help
  deriving Repr, DecidableEq

namespace Command

/-- The word that names a command. -/
def word : Command → String
  | .run => "run"
  | .check => "check"
  | .help => "help"

/-- The command that a word names. -/
def ofWord? (text : String) : Option Command :=
  [Command.run, .check, .help].find? fun command => command.word = text

/-- The flags that a command has; what gives help has none. -/
def flags : Command → List Flag
  | .run => [.trace, .minimal, .help]
  | .check => [.help]
  | .help => []

end Command

end EightBit
