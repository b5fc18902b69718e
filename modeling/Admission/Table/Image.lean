import Admission.Table.Region

set_option autoImplicit false

/-!
# The image of a table

How the contents of a table lie in the bytes of its segment: words with their
low byte first, each at a fixed offset.  Reading is total; bytes beyond the end
of an image count as zero.
-/

namespace Admission

/-- The bytes of a segment. -/
structure Image where
  bytes : ByteArray

namespace Image

/-- The byte at an offset. -/
def byte (m : Image) (offset : Nat) : UInt8 :=
  m.bytes.data[offset]?.getD 0

/-- The number that `count` bytes spell, the low byte first. -/
def number (m : Image) (offset : Nat) : Nat → Nat
  | 0 => 0
  | count + 1 => (m.byte offset).toNat + 256 * m.number (offset + 1) count

/-- The 32-bit word at an offset. -/
def word (m : Image) (offset : Nat) : UInt32 :=
  (m.number offset 4).toUInt32

/-- The signed 32-bit number at an offset. -/
def signed (m : Image) (offset : Nat) : Int32 :=
  (m.word offset).toInt32

/-- The flag at an offset. -/
def flag (m : Image) (offset : Nat) : Bool :=
  m.byte offset != 0

/-- The text of fixed capacity at an offset: its length in two bytes, then its bytes. -/
def text (m : Image) (offset capacity : Nat) : FixedString capacity where
  len := (m.number offset 2).toUInt16
  bytes := (List.range capacity).map fun i => m.byte (offset + 2 + i)
  length_bytes := by simp

/-- The signal at an offset. -/
def signal (m : Image) (offset : Nat) : Signal :=
  ⟨m.word offset⟩

/-- The connection at an offset. -/
def connection (m : Image) (offset : Nat) : SharedConnection where
  noblock := m.byte offset
  resolv := m.signed (offset + 4)
  errcode := m.signed (offset + 8)
  host := m.text (offset + 12) _
  hostname := m.text (offset + 270) _
  database := m.text (offset + 528) _
  user := m.text (offset + 786) _

/-- The slot at an offset. -/
def slot (m : Image) (offset : Nat) : Slot where
  connection := m.connection offset
  status := m.signed (offset + 1044)
  owner := m.word (offset + 1048)
  worker := m.word (offset + 1052)
  generation := m.word (offset + 1056)
  available := m.flag (offset + 1060)
  done := m.flag (offset + 1061)
  error := m.flag (offset + 1062)
  message := m.text (offset + 1064) _

/-- The header, which comes first. -/
def header (m : Image) : Header where
  magic := m.word 0
  version := m.word 4
  state := m.word 8
  slotCount := m.word 12
  workerCount := m.word 16
  poolOwner := m.word 20

/-- Where the signal of a worker lies. -/
def workerOffset (worker : Nat) : Nat :=
  128 + 64 * worker

/-- Where a cell lies: behind the signals of all workers there can be. -/
def cellOffset (index : Nat) : Nat :=
  workerOffset maxSlots + 1472 * index

/-- The cell at an offset. -/
def cell (m : Image) (offset : Nat) : Cell where
  answered := m.signal offset
  freed := m.signal (offset + 64)
  slot := m.slot (offset + 128)

/-- The contents of the table. -/
def region (m : Image) : Region where
  header := m.header
  lock := ⟨m.word 64⟩
  workerSignals := .ofFn fun i => m.signal (workerOffset i)
  cells := .ofFn fun i => m.cell (cellOffset i)

end Image

end Admission
