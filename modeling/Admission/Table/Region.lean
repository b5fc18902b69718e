import Admission.Layout
import Admission.Slot.Basic
import Admission.Sync.LockWord
import Admission.Sync.Signal

set_option autoImplicit false

/-!
# The contents of a table

What lies in the shared memory of a slot table: a header that says what it is,
the table lock, a wake-up signal for every worker, and for every slot its data
with the signals its clients sleep on.  An all-zero region is valid and counts
as not yet initialized.
-/

namespace Admission

/-- How far the initialization of a table is. -/
inductive Readiness where
  | untouched
  | busy
  | ready
  deriving DecidableEq, Repr, Inhabited

/-- The header of a table. -/
structure Header where
  magic : UInt32 := 0
  version : UInt32 := 0
  /-- 0 before initialization, 2 after it; anything else means somebody is at it. -/
  state : UInt32 := 0
  slotCount : UInt32 := 0
  workerCount : UInt32 := 0
  /-- The process that runs the worker pool; 0 for none. -/
  poolOwner : Pid := 0
  deriving DecidableEq, Repr, Inhabited

namespace Header

/-- The word that marks a table. -/
def tableMagic : UInt32 := 0x41504C54

/-- The version of the arrangement in memory. -/
def tableVersion : UInt32 := 2

/-- How far the initialization is. -/
def readiness (h : Header) : Readiness :=
  if h.state = 0 then .untouched else if h.state = 2 then .ready else .busy

/-- Whether the header marks a table that this library can read. -/
def isTable (h : Header) : Bool :=
  h.magic = tableMagic && h.version = tableVersion

/-- The header of a fresh table. -/
def fresh (l : Layout) : Header :=
  ⟨tableMagic, tableVersion, 2, l.slots.toUInt32, l.workers.toUInt32, 0⟩

/-- The layout the header records. -/
def layout (h : Header) : Layout :=
  ⟨h.slotCount.toNat, h.workerCount.toNat⟩

end Header

/-- A slot with the signals of its clients. -/
structure Cell where
  /-- Sent when the slot was answered. -/
  answered : Signal := {}
  /-- Sent when the slot may have become free. -/
  freed : Signal := {}
  slot : Slot := .zero
  deriving DecidableEq, Inhabited

/-- The contents of a table. -/
structure Region where
  header : Header := {}
  lock : LockWord := {}
  /-- What each worker sleeps on. -/
  workerSignals : Vector Signal maxSlots := .replicate maxSlots {}
  cells : Vector Cell maxSlots := .replicate maxSlots {}
  deriving DecidableEq

namespace Region

/-- An all-zero region. -/
def zero : Region := {}

instance : Inhabited Region := ⟨zero⟩

/-- A cell; beyond the capacity all is zero. -/
def cell (r : Region) (index : Nat) : Cell :=
  r.cells[index]?.getD {}

/-- A slot. -/
def slot (r : Region) (index : Nat) : Slot :=
  (r.cell index).slot

/-- Replace a cell. -/
def setCell (r : Region) (index : Nat) (c : Cell) : Region :=
  { r with cells := r.cells.setIfInBounds index c }

/-- Replace a slot. -/
def setSlot (r : Region) (index : Nat) (s : Slot) : Region :=
  r.setCell index { r.cell index with slot := s }

/-- What the worker of this index sleeps on. -/
def workerSignal (r : Region) (worker : Nat) : Signal :=
  r.workerSignals[worker]?.getD {}

/-- Wake the worker of this index. -/
def wakeWorker (r : Region) (worker : Nat) : Region :=
  { r with workerSignals := r.workerSignals.setIfInBounds worker (r.workerSignal worker).send }

/-- Wake the client that waits for an answer in a slot. -/
def wakeAnswered (r : Region) (index : Nat) : Region :=
  r.setCell index { r.cell index with answered := (r.cell index).answered.send }

/-- Wake the clients that wait for a slot. -/
def wakeFreed (r : Region) (index : Nat) : Region :=
  r.setCell index { r.cell index with freed := (r.cell index).freed.send }

theorem cell_setCell (r : Region) (index other : Nat) (c : Cell) :
    (r.setCell index c).cell other =
      if other = index ∧ index < maxSlots then c else r.cell other := by
  simp only [cell, setCell, Vector.getElem?_setIfInBounds]
  split
  · next h =>
    subst h
    split
    · next h => simp [h]
    · next h => simp [h]
  · next h => simp [Ne.symm h]

theorem slot_setSlot {r : Region} {index : Nat} (h : index < maxSlots) (s : Slot) (other : Nat) :
    (r.setSlot index s).slot other = if other = index then s else r.slot other := by
  rw [slot, setSlot, cell_setCell]
  split
  · next heq => rw [if_pos heq.1]
  · next hne => rw [if_neg (fun heq => hne ⟨heq, h⟩), slot]

@[simp] theorem slot_wakeWorker (r : Region) (worker other : Nat) :
    (r.wakeWorker worker).slot other = r.slot other := rfl

@[simp] theorem slot_wakeAnswered (r : Region) (index other : Nat) :
    (r.wakeAnswered index).slot other = r.slot other := by
  rw [slot, wakeAnswered, cell_setCell]
  split
  · next heq => rw [heq.1]; rfl
  · rfl

@[simp] theorem slot_wakeFreed (r : Region) (index other : Nat) :
    (r.wakeFreed index).slot other = r.slot other := by
  rw [slot, wakeFreed, cell_setCell]
  split
  · next heq => rw [heq.1]; rfl
  · rfl

/-- The region made ready: every slot of the layout is idle and knows its worker. -/
def madeReady (r : Region) (l : Layout) : Region :=
  { r with
    header := .fresh l
    cells := r.cells.mapFinIdx fun i c _ =>
      if i < l.slots then { c with slot := c.slot.reset (l.workerForSlot i) } else c }

theorem slot_madeReady (r : Region) {l : Layout} (h : l.Valid) {index : Nat}
    (hi : index < l.slots) :
    (r.madeReady l).slot index = (r.slot index).reset (l.workerForSlot index) := by
  have hcap : index < maxSlots := Nat.lt_of_lt_of_le hi h.2.2
  simp [slot, cell, madeReady, hcap, hi]

/-- Go through a section under the table lock, at whose end the lock is free.  A
holder that is gone loses the lock, which is logged. -/
def locking (r : Region) (ps : Processes) : Region × List LogLine :=
  let free := { r with lock := r.lock.unlock }
  match r.lock.attempt ps with
  | .recovered holder _ => (free, [LockWord.recoveryLog holder])
  | _ => (free, [])

theorem slot_locking (r : Region) (ps : Processes) (index : Nat) :
    (r.locking ps).1.slot index = r.slot index := by
  unfold locking
  split <;> rfl

end Region

end Admission
