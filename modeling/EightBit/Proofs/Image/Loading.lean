import EightBit.Image.File
import EightBit.Proofs.Storage.Extension
import EightBit.Proofs.Text.Encoding

namespace EightBit.Image

/-!
# What comes of loading a path

The extension of a path is looked at before anything is read. Without one, or with
any other than the two that are known, a path is refused in the same way whatever it
leads to. With a known one, a file that cannot be read is refused for that; raw bytes
are taken as they are, and source text is parsed if the bytes are text at all.
-/

section Path

variable {path : String}

/-- The format of a path is a matter of the extension that it is written with. -/
theorem Format.ofPath_of_hasExtension
    {extension : Option (List Char)}
    (has : Path.HasExtension path.toList extension) :
    ofPath path =
      match extension with
      | none => .error .noExtension
      | some suffix =>
          if suffix = "ls8".toList then
            .ok .source
          else if suffix = "bin".toList then
            .ok .raw
          else
            .error .unknownExtension := by
  rw [ofPath, Path.extension?_eq_iff.mpr has]
  cases extension with
  | none =>
      rfl
  | some suffix =>
      have sameText :
          ∀ name : String, String.ofList suffix = name ↔ suffix = name.toList := by
        intro name
        exact ⟨fun same => by simp [← same], fun same => by simp [same]⟩
      simp only [Option.map_some, sameText]

variable {read : String → Except ReadError (List UInt8)}

theorem load_of_readable
    {format : Format}
    {content : List UInt8}
    (known : Format.ofPath path = .ok format)
    (readable : read path = .ok content) :
    load read path = ofContent format content := by
  rw [load, known, readable]

theorem ofContent_source_encode (text : String) :
    ofContent .source (Text.encode text) = (parse text).mapError .invalid := by
  rw [ofContent, Text.decode?_eq_some_iff.mpr rfl]

end Path

end EightBit.Image
