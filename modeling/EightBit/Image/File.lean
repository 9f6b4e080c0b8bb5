import EightBit.Image.Source
import EightBit.Storage.FileTree
import EightBit.Text.Encoding

namespace EightBit.Image

/-!
# Image files

The extension of a path says whether a file holds source text or raw bytes. It
is looked at before the file is, so a path without a known extension is refused
whatever it leads to.
-/

/-- What a file holds. -/
inductive Format where
  | source
  | raw
  deriving Repr, DecidableEq

/-- Why no image is loaded from a path. -/
inductive LoadError where
  | noExtension
  | unknownExtension
  | unreadable (error : ReadError)
  | notText
  | invalid (error : Error)
  deriving Repr, DecidableEq

/-- The format that the extension of a path stands for. -/
def Format.ofPath (path : String) : Except LoadError Format :=
  match Path.extension? path with
  | none => .error .noExtension
  | some suffix =>
      if suffix = "ls8" then
        .ok .source
      else if suffix = "bin" then
        .ok .raw
      else
        .error .unknownExtension

/-- The image that the content of a file describes in a format. -/
def ofContent
    (format : Format)
    (content : List UInt8) :
    Except LoadError Image :=
  match format with
  | .raw => (ofBytes content).mapError .invalid
  | .source =>
      match Text.decode? content with
      | none => .error .notText
      | some source => (parse source).mapError .invalid

/-- The image in the file that a path leads to. -/
def load
    (read : String → Except ReadError (List UInt8))
    (path : String) :
    Except LoadError Image :=
  match Format.ofPath path with
  | .error error => .error error
  | .ok format =>
      match read path with
      | .error error => .error (.unreadable error)
      | .ok content => ofContent format content

/-- A load error as it is shown to its reader. -/
def LoadError.report : LoadError → Report
  | .noExtension => Report.plain "File has no extension. Exiting..."
  | .unknownExtension => Report.plain "File has unknown extension. Exiting..."
  | .unreadable error => Report.plain error.message
  | .notText => Report.plain "stream did not contain valid UTF-8"
  | .invalid error => error.report

end EightBit.Image
