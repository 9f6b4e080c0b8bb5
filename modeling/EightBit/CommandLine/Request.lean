import EightBit.CommandLine.Command

namespace EightBit

/-!
# Requests

Arguments are read from left to right. In front of a command there may be one
path, which counts only if no command follows; behind a command come its flags
and the path it works on, in any order. After `--` every argument is a word.
Anything else is refused, and reading stops at a request for the version or for
help. Behind the command that gives help there is room for the word of one
command and nothing else.
-/

/-- Why the arguments of a command are not read to their end. -/
inductive Interruption where
  | refused
  | help
  deriving Repr, DecidableEq

/-- What a command has been given so far. -/
structure CommandArguments where
  path? : Option String
  flags : List Flag
  deriving Repr, DecidableEq

namespace CommandArguments

/-- Before any argument is read. -/
def none : CommandArguments where
  path? := Option.none
  flags := []

/-- Take a word as the path, unless it is empty or there is one. -/
def addWord
    (given : CommandArguments)
    (word : String) :
    Except Interruption CommandArguments :=
  if word.isEmpty || given.path?.isSome then
    .error .refused
  else
    .ok { given with path? := some word }

/-- Raise a flag, if the command has it and it is not raised. -/
def addFlag
    (allowed : List Flag)
    (given : CommandArguments)
    (flag : Flag) :
    Except Interruption CommandArguments :=
  if flag ∈ allowed ∧ flag ∉ given.flags then
    if flag = .help then
      .error .help
    else
      .ok { given with flags := flag :: given.flags }
  else
    .error .refused

/-- Raise the flag of a name or letter, if there is one. -/
def addFlag?
    (allowed : List Flag)
    (given : CommandArguments) :
    Option Flag →
    Except Interruption CommandArguments
  | some flag => given.addFlag allowed flag
  | Option.none => .error .refused

/-- Raise the flags of letters that are joined in one argument. -/
def addLetters
    (allowed : List Flag)
    (given : CommandArguments) :
    List Char →
    Except Interruption CommandArguments
  | [] => .ok given
  | letter :: rest =>
      match given.addFlag? allowed (Flag.ofLetter? letter) with
      | .error interruption => .error interruption
      | .ok extended => addLetters allowed extended rest

/-- Take every argument as a word. -/
def addWords
    (given : CommandArguments) :
    List String →
    Except Interruption CommandArguments
  | [] => .ok given
  | word :: rest =>
      match given.addWord word with
      | .error interruption => .error interruption
      | .ok extended => addWords extended rest

/-- Take an argument by its form; a separator asks for nothing. -/
def addArgument
    (allowed : List Flag)
    (given : CommandArguments) :
    Argument →
    Except Interruption CommandArguments
  | .separator => .ok given
  | .long name => given.addFlag? allowed (Flag.ofName? name)
  | .short letters => given.addLetters allowed letters
  | .word text => given.addWord text

/-- Read the arguments of a command that has some flags. -/
def read
    (allowed : List Flag)
    (given : CommandArguments) :
    List String →
    Except Interruption CommandArguments
  | [] => .ok given
  | argument :: rest =>
      match Argument.ofText argument with
      | .separator => given.addWords rest
      | form =>
          match given.addArgument allowed form with
          | .error interruption => .error interruption
          | .ok extended => read allowed extended rest

end CommandArguments

/-- What the arguments ask for. -/
inductive Request where
  | banner
  | version
  | help (topic : Option Command)
  | run (path : String) (flags : List Flag)
  | check (path : String)
  deriving Repr, DecidableEq

namespace Request

/-- The request for a run of the command's path with the command's flags. -/
def ofRunArguments (given : CommandArguments) : Option Request :=
  given.path?.map fun path => .run path given.flags

/-- The request for a check of the command's path. -/
def ofCheckArguments (given : CommandArguments) : Option Request :=
  given.path?.map fun path => .check path

/-- The request of the words behind the command that gives help. -/
def ofHelpWords : List String → Option Request
  | [] => some (.help none)
  | [word] =>
      match Command.ofWord? word with
      | none => none
      | some command => some (.help (some command))
  | _ => none

/-- The request of a command whose arguments are read with its flags. -/
def ofFlagged
    (command : Command)
    (ofGiven : CommandArguments → Option Request)
    (arguments : List String) :
    Option Request :=
  match CommandArguments.none.read command.flags arguments with
  | .ok given => ofGiven given
  | .error .help => some (.help (some command))
  | .error .refused => none

/-- The request of a command with the arguments behind it. -/
def ofCommand : Command → List String → Option Request
  | .run, arguments => ofFlagged .run ofRunArguments arguments
  | .check, arguments => ofFlagged .check ofCheckArguments arguments
  | .help, arguments => ofHelpWords arguments

/-- The request of a path without command. -/
def ofPath? : Option String → Request
  | none => .banner
  | some path => .run path []

/-- The request of words alone, of which the first may have been read. -/
def ofWords (path? : Option String) (words : List String) : Option Request :=
  match CommandArguments.addWords ⟨path?, []⟩ words with
  | .ok given => some (ofPath? given.path?)
  | .error _ => none

/-- The request of a flag in front of any command, by its long name. -/
def ofName? (name : List Char) : Option Request :=
  if name = "version".toList then
    some .version
  else if name = "help".toList then
    some (.help none)
  else
    none

/-- The request of a flag in front of any command, by its letter. -/
def ofLetter? : Char → Option Request
  | 'V' => some .version
  | 'h' => some (.help none)
  | _ => none

/-- Read arguments in front of any command, after a path has been read or not. -/
def readFrom (path? : Option String) : List String → Option Request
  | [] => some (ofPath? path?)
  | argument :: rest =>
      match Argument.ofText argument with
      | .separator => ofWords path? rest
      | .long name => ofName? name
      | .short letters => letters.head?.bind ofLetter?
      | .word text =>
          match Command.ofWord? text with
          | some command => ofCommand command rest
          | none =>
              if text.isEmpty || path?.isSome then
                none
              else
                readFrom (some text) rest

/-- The request that arguments make; nothing if they are refused. -/
def ofArguments (arguments : List String) : Option Request :=
  readFrom none arguments

end Request

end EightBit
