namespace EightBit

/-!
# Memory

Two hundred and fifty-six cells of one byte, shared by code and data. Below 256
an address has a cell, which can be read and written; from there on it has none.
-/

/-- Number of bytes the machine can address. -/
def Memory.size : Nat :=
  256

/-- The cells of the machine's memory. -/
structure Memory where
  cells : Vector UInt8 256
  deriving Repr, DecidableEq

namespace Memory

/-- Memory in which every cell is zero. -/
def zero : Memory where
  cells := Vector.replicate 256 0

/-- The byte at an address, if there is a cell. -/
def read?
    (memory : Memory)
    (address : Nat) :
    Option UInt8 :=
  memory.cells[address]?

/-- The byte at an address, where a missing cell counts as zero. -/
def cell
    (memory : Memory)
    (address : Nat) :
    UInt8 :=
  (memory.read? address).getD 0

/-- The memory with one byte replaced, if the address has a cell. -/
def write?
    (memory : Memory)
    (address : Nat)
    (value : UInt8) :
    Option Memory :=
  if inRange : address < 256 then
    some ⟨memory.cells.set address value inRange⟩
  else
    none

/-- The memory with bytes laid over it from address zero on. -/
def overlay
    (memory : Memory)
    (bytes : List UInt8) :
    Memory where
  cells := Vector.ofFn fun address =>
    bytes[address.val]?.getD memory.cells[address.val]

/-- The memory that holds a program and is zero behind it. -/
def ofBytes (bytes : List UInt8) : Memory where
  cells := Vector.ofFn fun address => bytes.getD address.val 0

/-- The non-zero cells with their addresses, in ascending order. -/
def nonZero (memory : Memory) : List (Nat × UInt8) :=
  ((List.range size).map fun address => (address, memory.cell address)).filter
    fun entry => entry.2 != 0

/-- Every cell of a memory, by ascending address. -/
def toList (memory : Memory) : List UInt8 :=
  memory.cells.toList

/-- An address has a cell exactly if it is below 256. -/
theorem read?_eq_none_iff
    {memory : Memory}
    {address : Nat} :
    memory.read? address = none ↔ 256 ≤ address := by
  simp [read?]

/-- Where there is a cell, it is what is read there. -/
theorem read?_eq_some_cell
    {memory : Memory}
    {address : Nat}
    (inRange : address < 256) :
    memory.read? address = some (memory.cell address) := by
  simp [cell, read?, inRange]

theorem cell_of_le
    {memory : Memory}
    {address : Nat}
    (outside : 256 ≤ address) :
    memory.cell address = 0 := by
  rw [cell, read?_eq_none_iff.mpr outside, Option.getD_none]

theorem lt_of_read?_eq_some
    {memory : Memory}
    {address : Nat}
    {value : UInt8}
    (present : memory.read? address = some value) :
    address < 256 :=
  (Vector.getElem?_eq_some_iff.mp present).1

theorem read?_zero (address : Nat) :
    zero.read? address = if address < 256 then some 0 else none := by
  simp only [read?, zero, Vector.getElem?_replicate]

/-- A write is refused exactly where there is no cell. -/
theorem write?_eq_none_iff
    {memory : Memory}
    {address : Nat}
    {value : UInt8} :
    memory.write? address value = none ↔ 256 ≤ address := by
  simp [write?]

/-- After a write the address reads as written and every other as before. -/
theorem read?_of_write?
    {memory written : Memory}
    {address : Nat}
    {value : UInt8}
    (wrote : memory.write? address value = some written)
    (other : Nat) :
    written.read? other =
      if other = address then some value else memory.read? other := by
  unfold write? at wrote
  split at wrote
  · rename_i inRange
    obtain rfl := Option.some.inj wrote
    by_cases same : other = address
    · subst same
      rw [if_pos rfl]
      exact Vector.getElem?_set_self inRange
    · rw [if_neg same]
      exact Vector.getElem?_set_ne inRange (fun equal => same equal.symm)
  · simp at wrote

/-- Under an overlay the first cells read as its bytes, the rest as before. -/
theorem read?_overlay
    {memory : Memory}
    {bytes : List UInt8}
    (fits : bytes.length ≤ 256)
    (address : Nat) :
    (memory.overlay bytes).read? address =
      if address < bytes.length then bytes[address]? else memory.read? address := by
  by_cases inRange : address < 256
  · by_cases covered : address < bytes.length
    · simp [read?, overlay, inRange, covered]
    · simp [read?, overlay, inRange, covered]
  · have uncovered : ¬address < bytes.length := by
      omega
    simp [read?, inRange, uncovered]

/-- A program laid over zero memory has zeros behind it. -/
theorem overlay_zero (bytes : List UInt8) :
    zero.overlay bytes = ofBytes bytes := by
  simp [overlay, zero, ofBytes, List.getD_eq_getElem?_getD]

end Memory

end EightBit
