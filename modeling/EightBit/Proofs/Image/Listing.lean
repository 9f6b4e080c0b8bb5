import EightBit.Proofs.Image.Concatenation
import EightBit.Proofs.Image.Loading
import EightBit.Proofs.Text.Numeral

namespace EightBit.Image

/-!
# Listings of bytes

A listing is source text with a byte a line, in base two, with some zeros in front
or none. Whatever the number of zeros, it says what the bytes themselves say as a
raw image, be they too many or not; and bytes that are read from any source text
can be listed and read again.
-/

/-- A byte and how many binary digits it is written with, from one to eight. -/
structure Spelling where
  byte : UInt8
  width : Nat
  positive : 1 ≤ width
  holds : byte.toNat < 2 ^ width
  narrow : width ≤ 8
  deriving Repr, DecidableEq

/-- The digits of a byte, filled up with zeros to the number of them it is to have. -/
def Spelling.digits (spelling : Spelling) : List Char :=
  Numeral.writePadded 2 spelling.width spelling.byte.toNat

/-- Bytes that are written one a line, where the last line may be left open. -/
structure Listing where
  spellings : List Spelling
  /-- Whether there is a line feed behind the last line. -/
  closed : Bool
  deriving Repr, DecidableEq

namespace Listing

/-- The bytes of a listing, in order. -/
def bytes (listing : Listing) : List UInt8 :=
  listing.spellings.map Spelling.byte

/-- The lines of a listing, without their line feeds. -/
def lines (listing : Listing) : List (List Char) :=
  listing.spellings.map Spelling.digits

/-- A listing as source text. -/
def text (listing : Listing) : String :=
  String.ofList
    (if listing.closed then
      listing.lines.flatMap (· ++ ['\n'])
    else
      ['\n'].intercalate listing.lines)

/-- The listing of bytes with eight digits each. -/
def ofBytes (bytes : List UInt8) : Listing where
  spellings :=
    bytes.map fun byte =>
      ⟨byte, 8, by decide, byte.toNat_lt, le_refl 8⟩
  closed := true

@[simp] theorem bytes_ofBytes (bytes : List UInt8) :
    (ofBytes bytes).bytes = bytes := by
  simp [ofBytes, Listing.bytes, Function.comp_def]

end Listing

/-! ## One line -/

/-- The value of binary digits is that of a number in base two. -/
theorem binaryValue_eq_read
    {text : List Char}
    (binary : IsBinary text) :
    binaryValue text = Numeral.read 2 text := by
  induction text using List.reverseRecOn with
  | nil =>
      rfl
  | append_singleton text character inductionHypothesis =>
      obtain ⟨textBinary, digit⟩ := List.forall_mem_append.mp binary
      have value :
          (if character = '1' then 1 else 0) =
            Numeral.digitValue character := by
        rcases digit character (List.mem_singleton_self _) with rfl | rfl <;>
          rfl
      rw [Numeral.read_append_singleton, ← inductionHypothesis textBinary,
        ← value, binaryValue, List.reverse_append, List.reverse_singleton,
        List.singleton_append, List.map_cons, Nat.ofDigits_cons, Nat.add_comm]
      rfl

/-- Binary digits on a line are its literal. -/
theorem literal_of_isBinary
    {line : List Char}
    (binary : IsBinary line) :
    Grammar.literal line = line := by
  have noComment : line.takeWhile (· ≠ '#') = line := by
    rw [List.takeWhile_eq_self_iff]
    intro character member
    rcases binary character member with rfl | rfl <;> decide
  have noBlank : ∀ character ∈ line, ¬decide (character ∈ Text.whiteSpace) := by
    intro character member
    rcases binary character member with rfl | rfl <;> decide
  have noIndentation : line.dropWhile (· ∈ Text.whiteSpace) = line := by
    rw [List.dropWhile_eq_self_iff]
    intro nonempty
    exact noBlank _ (List.getElem_mem _)
  have noTrailing : line.rdropWhile (· ∈ Text.whiteSpace) = line := by
    rw [List.rdropWhile_eq_self_iff]
    intro nonempty
    exact noBlank _ (List.getLast_mem _)
  rw [Grammar.literal, noComment, noIndentation, noTrailing]

/-- A line that is a byte literal and nothing else is read as that byte. -/
theorem readLine_of_isByteLiteral
    {line : List Char}
    (valid : IsByteLiteral line) :
    readLine line = .ok (some (UInt8.ofNat (binaryValue line))) := by
  have literal := literal_of_isBinary valid.2.2
  have reading := readsLine_readLine line
  generalize readLine line = result at reading
  cases reading with
  | blank noLiteral =>
      exact (valid.ne_nil (literal.symm.trans noLiteral)).elim
  | byte _ =>
      rw [literal]
  | misread misread =>
      rw [literal] at misread
      exact (misread.not_isByteLiteral valid).elim

namespace Spelling

variable (spelling : Spelling)

/-- A spelling has the number of digits that it is to have. -/
@[simp] theorem length_digits :
    spelling.digits.length = spelling.width :=
  Numeral.length_writePadded (le_refl 2) spelling.positive spelling.holds

theorem isBinary_digits :
    IsBinary spelling.digits := by
  intro character member
  obtain ⟨bit, isBit, rfl⟩ :=
    Numeral.exists_digit_of_mem_writePadded (le_refl 2) member
  rcases Nat.le_one_iff_eq_zero_or_eq_one.mp (Nat.le_of_lt_succ isBit)
    with rfl | rfl
  · exact .inl rfl
  · exact .inr rfl

theorem isByteLiteral_digits :
    IsByteLiteral spelling.digits := by
  refine ⟨?_, ?_, spelling.isBinary_digits⟩
  · rw [length_digits]
    exact spelling.positive
  · rw [length_digits]
    exact spelling.narrow

@[simp] theorem binaryValue_digits :
    binaryValue spelling.digits = spelling.byte.toNat := by
  rw [binaryValue_eq_read spelling.isBinary_digits]
  exact Numeral.read_writePadded (le_refl 2) (by decide) _ _

/-- A spelling is read as the byte that it spells. -/
theorem readLine_digits :
    readLine spelling.digits = .ok (some spelling.byte) := by
  rw [readLine_of_isByteLiteral spelling.isByteLiteral_digits,
    binaryValue_digits, UInt8.ofNat_toNat]

theorem lineFeed_not_mem_digits :
    '\n' ∉ spelling.digits := by
  intro member
  rcases spelling.isBinary_digits _ member with isZero | isOne
  · exact absurd isZero (by decide)
  · exact absurd isOne (by decide)

end Spelling

/-! ## All lines -/

theorem readText_flatMap_digits (spellings : List Spelling) :
    readText ((spellings.map Spelling.digits).flatMap (· ++ ['\n'])) =
      .ok (spellings.map Spelling.byte) := by
  induction spellings with
  | nil =>
      rfl
  | cons spelling rest inductionHypothesis =>
      rw [List.map_cons, List.flatMap_cons, List.append_assoc,
        List.singleton_append,
        readText_append_lineFeed spelling.lineFeed_not_mem_digits,
        spelling.readLine_digits, inductionHypothesis]
      rfl

/-- Lines with a line feed between them have one behind them once it is added. -/
theorem intercalate_append_lineFeed
    {lines : List (List Char)}
    (nonempty : lines ≠ []) :
    ['\n'].intercalate lines ++ ['\n'] = lines.flatMap (· ++ ['\n']) := by
  induction lines with
  | nil =>
      exact absurd rfl nonempty
  | cons line rest inductionHypothesis =>
      cases rest with
      | nil =>
          simp
      | cons next others =>
          rw [List.intercalate_cons_of_ne_nil (List.cons_ne_nil _ _),
            List.append_assoc, inductionHypothesis (List.cons_ne_nil _ _)]
          rfl

theorem Listing.readText_text (listing : Listing) :
    readText listing.text.toList = .ok listing.bytes := by
  rw [text, String.toList_ofList]
  split
  · exact readText_flatMap_digits listing.spellings
  · by_cases nothing : listing.lines = []
    · have noSpelling : listing.spellings = [] :=
        List.map_eq_nil_iff.mp nothing
      rw [nothing, bytes, noSpelling]
      rfl
    · rw [← readText_append_singleton, intercalate_append_lineFeed nothing]
      exact readText_flatMap_digits listing.spellings

/-- A listing is parsed as its bytes are taken. -/
theorem Listing.parse_text (listing : Listing) :
    parse listing.text = Image.ofBytes listing.bytes :=
  parse_of_readText listing.readText_text

/--
The listing of bytes comes to what the bytes come to as a raw image: the image of
just these bytes, or where there are more than 256 the report of their number. The
same holds of two files that can be read, one of source text with the listing in it
and one of the raw bytes. All bytes can be listed, and the bytes of an image that is
read from source text, listed in any way, are read as the same image again.
-/
theorem listings_say_their_bytes :
    (∀ listing : Listing,
      parse listing.text = ofBytes listing.bytes ∧
        (listing.bytes.length ≤ 256 →
          ∃ image,
            parse listing.text = .ok image ∧ image.bytes = listing.bytes) ∧
        (256 < listing.bytes.length →
          ∃ error,
            parse listing.text = .error error ∧
              error.report.code = some "load::too_large" ∧
                error.report.message =
                  "Program of " ++ toString listing.bytes.length ++
                    " bytes does not fit in memory.") ∧
        ∀ (read : String → Except ReadError (List UInt8))
            (textPath rawPath : String),
          Path.HasExtension textPath.toList (some "ls8".toList) →
          read textPath = .ok (Text.encode listing.text) →
          Path.HasExtension rawPath.toList (some "bin".toList) →
          read rawPath = .ok listing.bytes →
            load read textPath = load read rawPath ∧
              load read rawPath =
                (ofBytes listing.bytes).mapError .invalid) ∧
    (∀ bytes, ∃ listing : Listing, listing.bytes = bytes) ∧
    ∀ source image,
      parse source = .ok image →
      ∀ listing : Listing,
        listing.bytes = image.bytes →
        parse listing.text = .ok image := by
  refine ⟨?_, ?_, ?_⟩
  · intro listing
    rw [listing.parse_text]
    refine ⟨rfl, ?_, exists_error_of_lt, ?_⟩
    · intro fits
      exact ⟨_, ofBytes_of_le fits, rfl⟩
    · intro read textPath rawPath isText textRead isRaw rawRead
      have textFormat : Format.ofPath textPath = .ok .source :=
        Format.ofPath_of_hasExtension isText
      have rawFormat : Format.ofPath rawPath = .ok .raw :=
        Format.ofPath_of_hasExtension isRaw
      have textLoaded :
          load read textPath = (ofBytes listing.bytes).mapError .invalid := by
        rw [load_of_readable textFormat textRead, ofContent_source_encode,
          listing.parse_text]
      have rawLoaded :
          load read rawPath = (ofBytes listing.bytes).mapError .invalid :=
        load_of_readable rawFormat rawRead
      exact ⟨textLoaded.trans rawLoaded.symm, rawLoaded⟩
  · intro bytes
    exact ⟨.ofBytes bytes, Listing.bytes_ofBytes bytes⟩
  · intro source image parsed listing same
    rw [listing.parse_text, same]
    exact ofBytes_of_le image.fits

/-- Five, zero and a hundred and thirty, with three digits, one and eight. -/
def fiveZeroAndMore : Listing where
  spellings :=
    [⟨5, 3, by decide, by decide, by decide⟩,
      ⟨0, 1, by decide, by decide, by decide⟩,
      ⟨130, 8, by decide, by decide, by decide⟩]
  closed := false

/-- A file tree with these bytes listed in one file, and raw in another. -/
def listedAndRaw : FileTree :=
  (FileTree.empty.insert "p.ls8" (.file (Text.encode "101\n0\n10000010"))).insert
    "p.bin" (.file [5, 0, 130])

/-- The two files are loaded as one image. -/
theorem listings_say_their_bytes_in_files :
    fiveZeroAndMore.text = "101\n0\n10000010" ∧
      Path.HasExtension "p.ls8".toList (some "ls8".toList) ∧
      listedAndRaw.read "p.ls8" = .ok (Text.encode fiveZeroAndMore.text) ∧
      Path.HasExtension "p.bin".toList (some "bin".toList) ∧
      listedAndRaw.read "p.bin" = .ok fiveZeroAndMore.bytes ∧
      load listedAndRaw.read "p.ls8" = load listedAndRaw.read "p.bin" ∧
      load listedAndRaw.read "p.bin" = .ok ⟨[5, 0, 130], by decide⟩ := by
  have text : fiveZeroAndMore.text = "101\n0\n10000010" := by
    decide +kernel
  have isText : Path.HasExtension "p.ls8".toList (some "ls8".toList) :=
    Path.extension?_eq_iff.mp (by decide +kernel)
  have textRead :
      listedAndRaw.read "p.ls8" = .ok (Text.encode fiveZeroAndMore.text) := by
    decide +kernel
  have isRaw : Path.HasExtension "p.bin".toList (some "bin".toList) :=
    Path.extension?_eq_iff.mp (by decide +kernel)
  have rawRead : listedAndRaw.read "p.bin" = .ok fiveZeroAndMore.bytes := by
    decide +kernel
  obtain ⟨ofListing, -⟩ := listings_say_their_bytes
  obtain ⟨-, -, -, ofFiles⟩ := ofListing fiveZeroAndMore
  obtain ⟨same, loaded⟩ :=
    ofFiles listedAndRaw.read "p.ls8" "p.bin" isText textRead isRaw rawRead
  exact ⟨text, isText, textRead, isRaw, rawRead, same, loaded⟩

end EightBit.Image
