import EightBit.CommandLine.Command

namespace EightBit

/-!
# Usage

What is shown on a request for help: a page that says what something is for,
how it is called, and what each part of the call means. Every section of a page
is a list in two columns.
-/

/-- What is typed, and what it means. -/
structure Usage.Entry where
  term : String
  meaning : String

/-- A titled list of entries. -/
structure Usage.Section where
  title : String
  entries : List Usage.Entry

/-- A page on the use of something. -/
structure Usage where
  summary : String
  call : String
  sections : List Usage.Section

/-- What a command is for. -/
def Command.purpose : Command → String
  | .run => "Run a text `.ls8` or binary `.bin` program image"
  | .check => "Check that a program image loads without running it"
  | .help => "Print this message or the help of the given subcommand(s)"

namespace Usage

/-- Number of characters of the longest of some terms. -/
def Section.width (listed : Section) : Nat :=
  listed.entries.foldl (fun width entry => max width entry.term.length) 0

/-- An entry as a line of a list whose first column has some width. -/
def Entry.line
    (entry : Entry)
    (width : Nat) :
    String :=
  "  " ++ entry.term ++
    String.ofList (List.replicate (width - entry.term.length) ' ') ++
    "  " ++ entry.meaning ++ "\n"

/-- A section as it is shown, behind an empty line. -/
def Section.text (listed : Section) : String :=
  "\n" ++ listed.title ++ ":\n" ++
    String.join (listed.entries.map fun entry => entry.line listed.width)

/-- A page as it is shown. -/
def text (page : Usage) : String :=
  page.summary ++ "\n\nUsage: " ++ page.call ++ "\n" ++
    String.join (page.sections.map Section.text)

/-- How help is asked for. -/
def helpEntry : Entry :=
  ⟨"-h, --help", "Print help"⟩

/-- The page on the whole program. -/
def ofProgram : Usage where
  summary := "Interpreter for programs written for the LS-8 eight-bit computer"
  call := "ls8 [PATH] [COMMAND]"
  sections :=
    [⟨"Commands",
        [Command.run, .check, .help].map fun command =>
          ⟨command.word, command.purpose⟩⟩,
      ⟨"Arguments",
        [⟨"[PATH]", "Quickly provide a `.ls8` file to run"⟩]⟩,
      ⟨"Options",
        [helpEntry, ⟨"-V, --version", "Print version"⟩]⟩]

/-- The page on a command. -/
def ofCommand : Command → Usage
  | .run =>
      { summary := Command.run.purpose
        call := "ls8 run [OPTIONS] <NAME>"
        sections :=
          [⟨"Arguments",
              [⟨"<NAME>", "`.ls8` or `.bin` file to run"⟩]⟩,
            ⟨"Options",
              [⟨"-t, --trace", "Print machine state before every instruction"⟩,
                ⟨"-m, --minimal",
                  "Produce minimal output, suited for blackbox tests"⟩,
                helpEntry]⟩] }
  | .check =>
      { summary := Command.check.purpose
        call := "ls8 check <NAME>"
        sections :=
          [⟨"Arguments", [⟨"<NAME>", "File to check"⟩]⟩,
            ⟨"Options", [helpEntry]⟩] }
  | .help =>
      { summary := Command.help.purpose
        call := "ls8 help [COMMAND]..."
        sections :=
          [⟨"Arguments",
              [⟨"[COMMAND]...", "Print help for the subcommand(s)"⟩]⟩] }

/-- The page on a command, or on the whole program. -/
def page : Option Command → Usage
  | none => ofProgram
  | some command => ofCommand command

end Usage

end EightBit
