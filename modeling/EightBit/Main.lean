import EightBit.CommandLine.Session

/-!
# The command

Reads the arguments, the environment and the one file that a request is about,
performs the request, and writes what the session leaves behind.
-/

namespace EightBit

/-- Whether an error number is given, with either sign. -/
def hasNumber (code number : UInt32) : Bool :=
  code = number || 0 - code = number

/-- What the system says of a failed read, in the terms of a file tree. -/
def ReadError.ofSystem : IO.Error → ReadError
  | .noFileOrDirectory .. => .notFound
  | .inappropriateType _ code _ =>
      if hasNumber code 21 then
        .isDirectory
      else
        .notDirectory
  | .invalidArgument _ code details =>
      if hasNumber code 36 then
        .nameTooLong
      else
        .other details
  | error => .other (toString error)

/-- The path of the file that a request is about. -/
def Request.path? : Request → Option String
  | .run path _ => some path
  | .check path => some path
  | .banner => none
  | .version => none
  | .help _ => none

/-- The environment variables that a session looks at. -/
def systemEnvironment : IO Environment := do
  let names := [Settings.traceVariable, "CLICOLOR_FORCE", "COLORTERM"]
  let values ← names.mapM fun name => do
    return (name, (← IO.getEnv name).map Text.encode)
  return { bytes? := fun name => (values.lookup name).join }

/-- The content of a file, read only where its name stands for a format. -/
def systemRead (path : String) : IO (Except ReadError (List UInt8)) := do
  match Image.Format.ofPath path with
  | .error _ => return .error .notFound
  | .ok _ =>
      try
        let content ← IO.FS.readBinFile path
        return .ok content.data.toList
      catch error =>
        return .error (ReadError.ofSystem error)

/-- A report as it is written to the standard error. -/
def Report.text (report : Report) : String :=
  let code :=
    match report.code with
    | none => ""
    | some code => code ++ ": "
  let help :=
    match report.help with
    | none => ""
    | some help => "  help: " ++ help ++ "\n"
  "Error: " ++ code ++ report.message ++ "\n" ++ help

end EightBit

open EightBit in
/-- Perform the request of the arguments; the exit status tells how it ended. -/
def main (arguments : List String) : IO UInt32 := do
  let environment ← systemEnvironment
  let content ←
    match (Request.ofArguments arguments).bind Request.path? with
    | none => pure (.error .notFound)
    | some path => systemRead path
  let session := Session.ofArguments (fun _ => content) environment arguments
  IO.print session.output
  IO.eprint session.diagnostics
  match session.ending with
  | .failed failure => IO.eprint failure.report.text
  | .refused => IO.eprintln "error: unexpected arguments"
  | .succeeded => pure ()
  return UInt32.ofNat session.ending.status
