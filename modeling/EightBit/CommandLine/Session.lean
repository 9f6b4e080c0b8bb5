import EightBit.CommandLine.Banner
import EightBit.CommandLine.Request
import EightBit.CommandLine.Usage
import EightBit.Console.Basic
import EightBit.Image.File
import EightBit.Machine.Run
import EightBit.Settings

namespace EightBit

/-!
# Sessions

A session is one use of the command: a request is performed in an environment
on the files at hand. It leaves behind what was written to the two output
streams and whether it succeeded. Program output goes to the standard output,
everything for the operator to the standard error.
-/

/-- The environment variables, as bytes. -/
structure Environment where
  bytes? : String → Option (List UInt8)

namespace Environment

/-- The value of a variable that is set to text. -/
def text?
    (environment : Environment)
    (name : String) :
    Option String :=
  (environment.bytes? name).bind Text.decode?

/-- Whether the environment forces colors on an output that is no terminal. -/
def forcesColor (environment : Environment) : Bool :=
  match environment.text? "CLICOLOR_FORCE" with
  | none => false
  | some value => value ≠ "0"

/-- The settings that the environment decides. -/
def settings (environment : Environment) : Settings :=
  Settings.ofVariable (environment.bytes? Settings.traceVariable)

end Environment

/-- Why a session failed. -/
inductive Failure where
  | load (error : Image.LoadError)
  | fault (fault : Fault)
  deriving Repr, DecidableEq

/-- A failure as it is shown to its reader. -/
def Failure.report : Failure → Report
  | .load error => error.report
  | .fault cause => cause.report

/-- How a session ended. -/
inductive Ending where
  | succeeded
  | failed (failure : Failure)
  | refused
  deriving Repr, DecidableEq

/-- The exit status that tells of an ending. -/
def Ending.status : Ending → Nat
  | .succeeded => 0
  | .failed _ => 1
  | .refused => 2

/-- What a session leaves behind, short of the report of a failure. -/
structure Session where
  output : String
  diagnostics : String
  ending : Ending
  deriving Repr, DecidableEq

namespace Session

/-- What is shown when a machine has come to its end. -/
def endingMessage
    (console : Console) :
    State →
    String
  | .running => ""
  | .halted .instruction =>
      console.message .cyan "Halted" "HLT reached"
  | .halted (.unknownOpcode _ address) =>
      console.message .red "Stopped"
        ("unknown instruction at 0x" ++
          String.ofList (Numeral.writePadded 16 2 address))

/-- What is shown of the file that a verb is about. -/
def fileMessage
    (console : Console)
    (verb path : String) :
    String :=
  console.message .green verb ("target " ++ path)

/-- A number in decimal digits. -/
def decimal (number : Nat) : String :=
  String.ofList (Numeral.write 10 number)

/-- Run an image on a fresh machine, reported on the console. -/
def runImage
    (console : Console)
    (tracing : Bool)
    (path : String)
    (image : Image) :
    Session :=
  match Machine.initial.load image.bytes with
  | .error fault =>
      { output := ""
        diagnostics := fileMessage console "Loading" path
        ending := .failed (.fault fault) }
  | .ok machine =>
      let outcome :=
        Machine.run .standard (machine.setTracing tracing) Sink.unlimited
      let progress :=
        fileMessage console "Loading" path ++
          console.message .green "Running"
            (decimal image.length ++ " byte image") ++
          console.notices outcome.notices
      match outcome.result with
      | .error fault =>
          { output := Text.asciiText outcome.sink.accepted
            diagnostics := progress
            ending := .failed (.fault fault) }
      | .ok state =>
          { output := Text.asciiText outcome.sink.accepted
            diagnostics :=
              progress ++ endingMessage console state ++
                fileMessage console "Completed" path
            ending := .succeeded }

/-- Run the program in a file. -/
def run
    (read : String → Except ReadError (List UInt8))
    (environment : Environment)
    (path : String)
    (flags : List Flag) :
    Session :=
  let console : Console :=
    { colored := environment.forcesColor
      minimal := flags.contains .minimal }
  match Image.load read path with
  | .error error =>
      { output := ""
        diagnostics := fileMessage console "Loading" path
        ending := .failed (.load error) }
  | .ok image =>
      runImage console
        (flags.contains .trace || environment.settings.tracing) path image

/-- Check that the program in a file loads. -/
def check
    (read : String → Except ReadError (List UInt8))
    (environment : Environment)
    (path : String) :
    Session :=
  let console : Console :=
    { colored := environment.forcesColor
      minimal := false }
  match Image.load read path with
  | .error error =>
      { output := ""
        diagnostics := fileMessage console "Checking" path
        ending := .failed (.load error) }
  | .ok image =>
      { output := ""
        diagnostics :=
          fileMessage console "Checking" path ++
            console.message .green "Success"
              (decimal image.length ++ " bytes, no errors found!")
        ending := .succeeded }

/-- Write a text to the standard output and do nothing else. -/
def printing (text : String) : Session where
  output := text
  diagnostics := ""
  ending := .succeeded

/-- Do what a request asks for. -/
def perform
    (read : String → Except ReadError (List UInt8))
    (environment : Environment) :
    Request →
    Session
  | .banner =>
      printing
        (Banner.text environment.forcesColor (environment.text? "COLORTERM"))
  | .version => printing Banner.versionText
  | .help topic => printing (Usage.page topic).text
  | .run path flags => run read environment path flags
  | .check path => check read environment path

/-- What the command does with its arguments. -/
def ofArguments
    (read : String → Except ReadError (List UInt8))
    (environment : Environment)
    (arguments : List String) :
    Session :=
  match Request.ofArguments arguments with
  | none =>
      { output := ""
        diagnostics := ""
        ending := .refused }
  | some request => perform read environment request

end Session

end EightBit
