import EightBit.Machine.Operation
import EightBit.Proofs.Text.PaddedNumeral

namespace EightBit

/-!
# Trace lines are lossless

A trace line is words with a blank between them, in three sections with a bar between
them: the address, the bytes there, and the registers. A reader that takes the words
apart reads just the trace lines, and gives back what they show. So two machines have
the same trace line exactly if they are alike in what it shows, whatever else there is
to them.
-/

namespace Snapshot

/-! ## The words of a line -/

/-- The word that a trace line starts with. -/
def mark : List Char :=
  "TRACE:".toList

/-- A byte as a word of a trace line. -/
def byteWord (byte : UInt8) : List Char :=
  hexadecimal byte.toNat

/-- The words of a trace line, section by section. -/
def sections (snapshot : Snapshot) : List (List (List Char)) :=
  [[mark, hexadecimal snapshot.address],
    snapshot.window.toList.map byteWord,
    snapshot.registers.toList.map byteWord]

/-- Words with a blank between them, and a bar between sections. -/
def join (sections : List (List (List Char))) : List Char :=
  [' '].intercalate ([['|']].intercalate sections)

/-- The words of a text; a bar that stands alone ends a section. -/
def split (text : List Char) : List (List (List Char)) :=
  (text.splitOn ' ').splitOn ['|']

theorem join_split (text : List Char) :
    join (split text) = text := by
  rw [join, split, List.intercalate_splitOn, List.intercalate_splitOn]

/-- The words of a trace line in a row. -/
theorem intercalate_sections (snapshot : Snapshot) :
    [['|']].intercalate snapshot.sections =
      mark :: hexadecimal snapshot.address :: ['|'] ::
        (snapshot.window.toList.map byteWord ++
          ['|'] :: snapshot.registers.toList.map byteWord) := by
  simp [sections, List.intercalate_cons_cons]

/-- Words with blanks between them have a blank in front of each but the first. -/
theorem intercalate_blank_cons
    (first : List Char)
    (rest : List (List Char)) :
    [' '].intercalate (first :: rest) =
      first ++ rest.flatMap fun word => ' ' :: word := by
  induction rest generalizing first with
  | nil =>
      simp
  | cons next others inductionHypothesis =>
      rw [List.intercalate_cons_cons, inductionHypothesis]
      simp

theorem spaced_eq_flatMap (bytes : List UInt8) :
    spaced bytes = (bytes.map byteWord).flatMap fun word => ' ' :: word := by
  rw [List.flatMap_map]
  rfl

/-- A trace line is its words, one behind another. -/
theorem characters_eq_join (snapshot : Snapshot) :
    snapshot.characters = join snapshot.sections := by
  have start : "TRACE: ".toList = mark ++ [' '] := by decide
  have bar : " |".toList = [' ', '|'] := by decide
  unfold characters
  rw [join, intercalate_sections, intercalate_blank_cons]
  simp only [start, bar, spaced_eq_flatMap, List.flatMap_cons,
    List.flatMap_append, List.append_assoc, List.cons_append,
    List.nil_append]

/-! ## The words can be told apart -/

theorem blank_not_mem_hexadecimal (value : Nat) :
    ' ' ∉ hexadecimal value :=
  Numeral.not_mem_writePadded (by decide) (by decide) (by decide) 2 value

theorem hexadecimal_ne_bar (value : Nat) :
    hexadecimal value ≠ ['|'] := by
  intro isBar
  have noBar : '|' ∉ hexadecimal value :=
    Numeral.not_mem_writePadded (by decide) (by decide) (by decide) 2 value
  rw [isBar] at noBar
  exact noBar (List.mem_singleton_self '|')

theorem bar_not_mem_bytes (bytes : List UInt8) :
    ['|'] ∉ bytes.map byteWord := by
  intro member
  obtain ⟨byte, -, isBar⟩ := List.mem_map.mp member
  exact hexadecimal_ne_bar byte.toNat isBar

/-- The words of a trace line come apart in its text. -/
theorem split_join_sections (snapshot : Snapshot) :
    split (join snapshot.sections) = snapshot.sections := by
  have noBlank :
      ∀ word ∈ [['|']].intercalate snapshot.sections, ' ' ∉ word := by
    simp only [intercalate_sections, List.forall_mem_cons,
      List.forall_mem_append, List.forall_mem_map]
    exact ⟨by decide, blank_not_mem_hexadecimal _, by decide,
      fun byte _ => blank_not_mem_hexadecimal byte.toNat, by decide,
      fun byte _ => blank_not_mem_hexadecimal byte.toNat⟩
  have noBar :
      ∀ words ∈ snapshot.sections, ['|'] ∉ words := by
    have first : ['|'] ∉ [mark, hexadecimal snapshot.address] := by
      rw [List.mem_pair, not_or]
      exact ⟨by decide, (hexadecimal_ne_bar _).symm⟩
    simp only [sections, List.forall_mem_cons]
    exact ⟨first, bar_not_mem_bytes _, bar_not_mem_bytes _,
      List.forall_mem_nil _⟩
  have someWords : [['|']].intercalate snapshot.sections ≠ [] := by
    rw [intercalate_sections]
    exact List.cons_ne_nil _ _
  -- A blank only separates words, and among the words a bar only separates sections.
  rw [split, join, List.splitOn_intercalate ' ' noBlank someWords,
    List.splitOn_intercalate ['|'] noBar (List.cons_ne_nil _ _)]

/-! ## Reading a line -/

/-- The number that a word writes in hexadecimal. -/
def readNumber? (word : List Char) : Option Nat :=
  if Numeral.IsPadded 16 2 word then
    some (Numeral.read 16 word)
  else
    none

/-- The byte that a word writes. -/
def readByte? (word : List Char) : Option UInt8 := do
  let value ← readNumber? word
  if value < 256 then
    some (UInt8.ofNat value)
  else
    none

/-- The bytes that words write, if there are as many as asked for. -/
def readBytes?
    (count : Nat)
    (words : List (List Char)) :
    Option (Vector UInt8 count) := do
  let bytes ← words.mapM readByte?
  if size : bytes.length = count then
    some ⟨bytes.toArray, size⟩
  else
    none

/-- What words in sections show, if they are those of a trace line. -/
def ofSections? : List (List (List Char)) → Option Snapshot
  | [[first, address], window, registers] => do
      let address ← readNumber? address
      let window ← readBytes? 3 window
      let registers ← readBytes? 8 registers
      if first = mark then
        some ⟨address, window, ⟨registers⟩⟩
      else
        none
  | _ => none

/-- What a text shows, if it is a trace line. -/
def ofLine? (text : String) : Option Snapshot :=
  ofSections? (split text.toList)

theorem readNumber?_eq_some_iff
    {word : List Char}
    {value : Nat} :
    readNumber? word = some value ↔ word = hexadecimal value := by
  have padded :
      Numeral.IsPadded 16 2 word ∧ Numeral.read 16 word = value ↔
        word = hexadecimal value :=
    Numeral.isPadded_and_read_eq_iff (by decide) (by decide) (by decide)
  simp [readNumber?, ← padded]

theorem readByte?_eq_some_iff
    {word : List Char}
    {byte : UInt8} :
    readByte? word = some byte ↔ word = byteWord byte := by
  simp only [readByte?, Option.bind_eq_bind, Option.bind_eq_some_iff,
    readNumber?_eq_some_iff]
  constructor
  · rintro ⟨value, rfl, isByte⟩
    split at isByte
    · rename_i small
      obtain rfl := Option.some.inj isByte
      rw [byteWord, UInt8.toNat_ofNat_of_lt' small]
    · cases isByte
  · intro isWord
    refine ⟨byte.toNat, isWord, ?_⟩
    rw [if_pos byte.toNat_lt, UInt8.ofNat_toNat]

theorem mapM_readByte?_eq_some_iff
    {words : List (List Char)}
    {bytes : List UInt8} :
    words.mapM readByte? = some bytes ↔ words = bytes.map byteWord := by
  induction words generalizing bytes with
  | nil =>
      cases bytes <;> simp
  | cons word rest inductionHypothesis =>
      cases bytes with
      | nil =>
          simp [List.mapM_cons, Option.bind_eq_some_iff]
      | cons byte others =>
          simp [List.mapM_cons, Option.bind_eq_some_iff,
            readByte?_eq_some_iff, inductionHypothesis]

theorem readBytes?_eq_some_iff
    {count : Nat}
    {words : List (List Char)}
    {bytes : Vector UInt8 count} :
    readBytes? count words = some bytes ↔
      words = bytes.toList.map byteWord := by
  simp only [readBytes?, Option.bind_eq_bind, Option.bind_eq_some_iff,
    mapM_readByte?_eq_some_iff]
  constructor
  · rintro ⟨values, rfl, fits⟩
    split at fits
    · obtain rfl := Option.some.inj fits
      rfl
    · cases fits
  · intro areWords
    refine ⟨bytes.toList, areWords, ?_⟩
    rw [dif_pos bytes.length_toList]
    rfl

theorem ofSections?_eq_some_iff
    {given : List (List (List Char))}
    {snapshot : Snapshot} :
    ofSections? given = some snapshot ↔ given = snapshot.sections := by
  constructor
  · intro shown
    unfold ofSections? at shown
    split at shown
    · simp only [Option.bind_eq_bind, Option.bind_eq_some_iff,
        readNumber?_eq_some_iff, readBytes?_eq_some_iff,
        Option.ite_none_right_eq_some, Option.some.injEq] at shown
      obtain ⟨address, rfl, window, rfl, registers, rfl, rfl, rfl⟩ := shown
      rfl
    · cases shown
  · rintro rfl
    simp only [sections, ofSections?, Option.bind_eq_bind,
      Option.bind_eq_some_iff, readNumber?_eq_some_iff,
      readBytes?_eq_some_iff, Option.ite_none_right_eq_some,
      Option.some.injEq]
    exact ⟨_, rfl, _, rfl, _, rfl, trivial, rfl⟩

/-- The texts that are read are the trace lines, and each as what it shows. -/
theorem ofLine?_eq_some_iff
    {text : String}
    {snapshot : Snapshot} :
    ofLine? text = some snapshot ↔ text = snapshot.line := by
  rw [ofLine?, ofSections?_eq_some_iff, line, characters_eq_join]
  constructor
  · intro isSplit
    rw [← isSplit, join_split, String.ofList_toList]
  · rintro rfl
    rw [String.toList_ofList, split_join_sections]

/-- Nothing that a snapshot holds is lost in its line. -/
theorem line_inj
    {first second : Snapshot} :
    first.line = second.line ↔ first = second := by
  constructor
  · intro same
    have asFirst : ofLine? first.line = some first :=
      ofLine?_eq_some_iff.mpr rfl
    have asSecond : ofLine? first.line = some second :=
      ofLine?_eq_some_iff.mpr same
    exact Option.some.inj (asFirst.symm.trans asSecond)
  · exact congrArg line

/-! ## What a line shows -/

/--
A snapshot that tells of a machine its program counter, the three bytes from there,
and its registers.
-/
structure Shows
    (snapshot : Snapshot)
    (machine : Machine) :
    Prop where
  address : snapshot.address = machine.counter
  inside :
    ∀ offset : Fin 3,
      machine.counter + offset.val < 256 →
        machine.memory.read? (machine.counter + offset.val) =
          some snapshot.window[offset]
  /-- Where there is no cell, a zero is shown. -/
  outside :
    ∀ offset : Fin 3,
      256 ≤ machine.counter + offset.val →
        snapshot.window[offset] = 0
  registers : snapshot.registers = machine.registers

end Snapshot

namespace Machine

theorem getElem_window_snapshot
    (machine : Machine)
    (offset : Fin 3) :
    machine.snapshot.window[offset] =
      machine.memory.cell (machine.counter + offset.val) := by
  simp [snapshot]

theorem shows_snapshot (machine : Machine) :
    machine.snapshot.Shows machine where
  address := rfl
  inside := by
    intro offset inRange
    rw [getElem_window_snapshot]
    exact Memory.read?_eq_some_cell inRange
  outside := by
    intro offset outOfRange
    rw [getElem_window_snapshot]
    exact Memory.cell_of_le outOfRange
  registers := rfl

/-- Two machines that do not differ in what a trace line shows. -/
structure ShownAlike (first second : Machine) : Prop where
  counter : first.counter = second.counter
  /-- A cell that memory does not have counts as zero. -/
  window :
    ∀ offset : Fin 3,
      (first.memory.read? (first.counter + offset.val)).getD 0 =
        (second.memory.read? (second.counter + offset.val)).getD 0
  registers : first.registers = second.registers

theorem snapshot_eq_iff
    {first second : Machine} :
    first.snapshot = second.snapshot ↔ ShownAlike first second := by
  constructor
  · intro same
    refine
      ⟨congrArg Snapshot.address same, fun offset => ?_,
        congrArg Snapshot.registers same⟩
    have sameByte :
        first.snapshot.window[offset] = second.snapshot.window[offset] := by
      rw [same]
    rw [getElem_window_snapshot, getElem_window_snapshot] at sameByte
    exact sameByte
  · rintro ⟨counter, window, registers⟩
    unfold snapshot Memory.cell
    rw [Snapshot.mk.injEq]
    exact ⟨counter, congrArg Vector.ofFn (funext window), registers⟩

/--
A text is read as a trace line exactly if it is one, and then as what it shows. Of a
machine with any instruction set that is its program counter, in more than two digits
exactly from 256 on, the three bytes that are read from there, or zeros where memory
has ended, and its registers in order. Two machines have the same trace line exactly
if they are alike in these; nothing else of them has a part in it.
-/
theorem trace_lines_lossless :
    (∀ text snapshot,
      Snapshot.ofLine? text = some snapshot ↔ text = snapshot.line) ∧
    (∀ (set : InstructionSet) (machine : Machine) (sink : Sink),
      (Operation.describe.perform set machine sink).result =
          .ok (.line machine.snapshot.line) ∧
        Snapshot.ofLine? machine.snapshot.line = some machine.snapshot ∧
        machine.snapshot.Shows machine ∧
        (2 < (Snapshot.hexadecimal machine.counter).length ↔
          256 ≤ machine.counter)) ∧
    ∀ first second : Machine,
      first.snapshot.line = second.snapshot.line ↔
        ShownAlike first second := by
  refine ⟨fun _ _ => Snapshot.ofLine?_eq_some_iff, ?_, ?_⟩
  · intro set machine sink
    refine
      ⟨rfl, Snapshot.ofLine?_eq_some_iff.mpr rfl, machine.shows_snapshot, ?_⟩
    exact Numeral.lt_length_writePadded_iff (by decide) (by decide)
  · intro first second
    rw [Snapshot.line_inj, snapshot_eq_iff]

/-- A machine at an address, with a byte in the last cell of its memory. -/
def standing
    (counter : Nat)
    (byte : UInt8) :
    Machine :=
  { initial with
    memory := ⟨Memory.zero.cells.set 255 byte⟩
    counter := counter }

/-- The last cell is seen from in front of it, and no more from behind it. -/
theorem trace_lines_lossless_last_cell :
    (standing 254 1).snapshot.line =
        "TRACE: FE | 00 01 00 | 00 00 00 00 00 00 00 F4" ∧
      (standing 254 1).snapshot.line ≠ (standing 254 2).snapshot.line ∧
      (standing 256 1).snapshot.line =
        "TRACE: 100 | 00 00 00 | 00 00 00 00 00 00 00 F4" ∧
      standing 256 1 ≠ standing 256 2 ∧
      (standing 256 1).snapshot.line = (standing 256 2).snapshot.line := by
  obtain ⟨read, -, shownAlike⟩ := trace_lines_lossless
  have front :
      Snapshot.ofLine? "TRACE: FE | 00 01 00 | 00 00 00 00 00 00 00 F4" =
        some (standing 254 1).snapshot := by
    decide +kernel
  have behind :
      Snapshot.ofLine? "TRACE: 100 | 00 00 00 | 00 00 00 00 00 00 00 F4" =
        some (standing 256 1).snapshot := by
    decide +kernel
  have apart : ¬ShownAlike (standing 254 1) (standing 254 2) := by
    intro alike
    exact absurd (alike.window 1) (by decide +kernel)
  have alike : ShownAlike (standing 256 1) (standing 256 2) := by
    refine ⟨rfl, fun offset => ?_, rfl⟩
    have outOfRange : 256 ≤ 256 + offset.val := Nat.le_add_right _ _
    simp only [standing, Memory.read?_eq_none_iff.mpr outOfRange]
  exact
    ⟨((read _ _).mp front).symm, fun same => apart ((shownAlike _ _).mp same),
      ((read _ _).mp behind).symm, by decide +kernel,
      (shownAlike _ _).mpr alike⟩

end Machine

end EightBit
