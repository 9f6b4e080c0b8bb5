import EightBit.Console.Color

namespace EightBit.Banner

/-!
# The banner

What is shown to someone who starts the program without arguments: its name
and version, its logo, and where to go from there. On a terminal with colors
the logo is bold and pink, or white where the terminal has only sixteen colors.
-/

/-- The version of the program. -/
def version : String :=
  "0.1.0"

/-- What is shown on a request for the version. -/
def versionText : String :=
  "ls8 " ++ version ++ "\n"

/-- The logo, in letters made of lines. -/
def logo : String :=
  "\n  _       ___     ___\n" ++
    " | |     / __|   ( _ )\n" ++
    " | |__   \\__ \\   / _ \\\n" ++
    " |____|  |___/   \\___/\n"

/-- What the program is and how to use it. -/
def introduction : String :=
  "\nWelcome to ls8, an interpreter for the LS-8 eight-bit computer.\n" ++
    "Please use `-h` or `--help` to access the usage instructions " ++
    "and documentation.\n"

/-- The style of the logo, by what the terminal says of its range of colors. -/
def logoParameters (colorRange : Option String) : String :=
  if colorRange = some "truecolor" ∨ colorRange = some "24bit" then
    "1;38;2;255;183;197"
  else
    "1;37"

/-- The logo as it is shown. -/
def paintedLogo
    (colored : Bool)
    (colorRange : Option String) :
    String :=
  if colored then
    String.ofList (Style.paint (logoParameters colorRange) 0 logo.toList)
  else
    logo

/-- The whole banner. -/
def text
    (colored : Bool)
    (colorRange : Option String) :
    String :=
  "\n~ ls8 v" ++ version ++ " ~\n" ++
    paintedLogo colored colorRange ++ "\n" ++
    introduction ++ "\n"

end EightBit.Banner
