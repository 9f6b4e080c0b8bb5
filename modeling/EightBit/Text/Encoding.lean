namespace EightBit.Text

/-!
# Text as bytes

Files and environment variables hold bytes; text is what those bytes say in
UTF-8, if they are valid UTF-8 at all. Program output is ASCII, one byte a
character.
-/

/-- The text that bytes stand for in UTF-8, or nothing if they are no UTF-8. -/
def decode? (bytes : List UInt8) : Option String :=
  String.fromUTF8? ⟨bytes.toArray⟩

/-- The bytes of a text in UTF-8. -/
def encode (text : String) : List UInt8 :=
  text.toUTF8.data.toList

/-- The bytes of ASCII characters, one each. -/
def asciiBytes (characters : List Char) : List UInt8 :=
  characters.map fun character => UInt8.ofNat character.toNat

/-- The characters of ASCII bytes, one each. -/
def asciiText (bytes : List UInt8) : String :=
  String.ofList (bytes.map fun byte => Char.ofNat byte.toNat)

end EightBit.Text
