import Admission.Dict
import Admission.Memory.Error
import Admission.Table.Region

set_option autoImplicit false

/-!
# Shared segments

Segments of shared memory are found by name.  A name starts with a slash, has no
other slash, and is at most 255 bytes long.  The system itself keeps segments by
what follows the slashes in front, in a directory where `.` and `..` are
directories too, and asks for less when a name is only looked up or taken away.
A segment whose name is taken away lives on for those that have mapped it, so
names and segments are kept apart.
-/

namespace Admission

/-- A shared segment. -/
structure Segment where
  /-- Its size in bytes; a segment is made with none and sized afterwards. -/
  size : Nat
  /-- Its contents, read as those of a table. -/
  region : Region := .zero
  /-- Words that are no part of a table, by their offsets. -/
  spare : Dict Nat UInt32 := .empty

namespace Segment

/-- The bytes a table takes. -/
def tableSize : Nat := 393344

/-- The 32-bit word at an offset. -/
def word (s : Segment) : Nat → UInt32
  | 0 => s.region.header.magic
  | 4 => s.region.header.version
  | 8 => s.region.header.state
  | 12 => s.region.header.slotCount
  | 16 => s.region.header.workerCount
  | 20 => s.region.header.poolOwner
  | 64 => s.region.lock.word
  | offset => (s.spare.get? offset).getD 0

/-- The segment with another header. -/
def withHeader (s : Segment) (change : Header → Header) : Segment :=
  { s with region := { s.region with header := change s.region.header } }

/-- Write the 32-bit word at an offset. -/
def setWord (s : Segment) (offset : Nat) (value : UInt32) : Segment :=
  match offset with
  | 0 => s.withHeader ({ · with magic := value })
  | 4 => s.withHeader ({ · with version := value })
  | 8 => s.withHeader ({ · with state := value })
  | 12 => s.withHeader ({ · with slotCount := value })
  | 16 => s.withHeader ({ · with workerCount := value })
  | 20 => s.withHeader ({ · with poolOwner := value })
  | 64 => { s with region := { s.region with lock := ⟨value⟩ } }
  | offset => { s with spare := s.spare.insert offset value }

end Segment

/-- A mapped segment. -/
structure Mapping where
  /-- Which segment is mapped. -/
  segment : Nat
  /-- The bytes that are mapped. -/
  size : Nat
  /-- The name it was opened by; empty for an anonymous one. -/
  name : String
  deriving DecidableEq, Repr, Inhabited

/-- All segments and their names. -/
structure Memory where
  /-- The segments by their names, without the slashes in front. -/
  names : Dict String Nat := .empty
  /-- The segments in the order they were made. -/
  segments : List Segment := []
  deriving Inhabited

namespace Memory

/-- The reason why a name is no segment name, if it is none. -/
def nameFlaw? (name : String) : Option String :=
  match name.toList with
  | '/' :: rest =>
    if '/' ∈ rest then some s!"Segment name cannot contain '/' after prefix: {name}"
    else if 255 < name.utf8ByteSize then some s!"Segment name too long (max 255): {name}"
    else if '\x00' ∈ rest then some name
    else none
  | _ => some s!"Segment name must start with '/': {name}"

/-- What the system finds under a name. -/
inductive Place where
  /-- Nothing can have this name. -/
  | nowhere
  /-- One of the two names that stand for directories. -/
  | directory
  /-- The place of the segment that is kept by this name. -/
  | file (key : String)
  deriving DecidableEq, Repr

/-- Look a name up: the slashes in front do not count, and a further one is not
allowed. -/
def Place.ofName (name : String) : Place :=
  let key := name.toList.dropWhile (· = '/')
  if key.isEmpty || key.contains '/' then .nowhere
  else if key = ['.'] || key = ['.', '.'] then .directory
  else .file (String.ofList key)

/-- What the system says to an argument it cannot take. -/
def invalidArgument : String := "Invalid argument (os error 22)"

/-- What the system says when a directory is to be taken away. -/
def isADirectory : String := "Is a directory (os error 21)"

/-- What the system says to a name that is too long for it. -/
def nameTooLong : String := "File name too long (os error 36)"

/-- What the system says when it has no room. -/
def outOfMemory : String := "Cannot allocate memory (os error 12)"

/-- The longest stretch of addresses that a process has free, in bytes.  A file
takes memory only where it is written to, so this alone bounds the mapping of a
named segment. -/
def freeAddresses : Nat := 86 * 0x10000000000

/-- The memory of the machine in bytes.  A segment without a name is set aside in
full when it is mapped. -/
def machineMemory : Nat := 0x800000000

/-- Check that a mapping of this size can be made where there is so much room. -/
def checkMappable (room size : Nat) : Except SegmentError Unit :=
  if size = 0 then .error (.cannotMap invalidArgument)
  else if room ≤ size then .error (.cannotMap outOfMemory)
  else .ok ()

/-- The segment of this number. -/
def segment (m : Memory) (n : Nat) : Segment :=
  m.segments[n]?.getD { size := 0 }

/-- Replace the segment of this number. -/
def setSegment (m : Memory) (n : Nat) (s : Segment) : Memory :=
  { m with segments := m.segments.set n s }

/-- The contents of the segment of this number. -/
def region (m : Memory) (n : Nat) : Region :=
  (m.segment n).region

/-- Replace the contents of the segment of this number. -/
def setRegion (m : Memory) (n : Nat) (r : Region) : Memory :=
  m.setSegment n { m.segment n with region := r }

@[simp] theorem length_setRegion (m : Memory) (n : Nat) (r : Region) :
    (m.setRegion n r).segments.length = m.segments.length := by
  simp [setRegion, setSegment]

theorem region_setRegion {m : Memory} {n : Nat} (h : n < m.segments.length) (r : Region) :
    (m.setRegion n r).region n = r := by
  simp [setRegion, setSegment, region, segment, h]

/-- Add a segment; also says its number. -/
def push (m : Memory) (s : Segment) : Nat × Memory :=
  (m.segments.length, { m with segments := m.segments ++ [s] })

/-- The segment kept by a name, made without a size if there is none. -/
def findOrMake (m : Memory) (key : String) : Nat × Memory :=
  match m.names.get? key with
  | some n => (n, m)
  | none =>
    let (n, m) := m.push { size := 0 }
    (n, { m with names := m.names.insert key n })

/-- Map the segment of this name in exactly this size.  One that does not exist
is made; also says whether this call sized it.  A segment made for a size that
cannot be mapped stays. -/
def openOrCreate (m : Memory) (name : String) (size : Nat) :
    Except SegmentError (Mapping × Bool) × Memory :=
  match nameFlaw? name with
  | some flaw => (.error (.invalidName flaw), m)
  | none =>
    match Place.ofName name with
    | .nowhere | .directory => (.error (.cannotCreate invalidArgument), m)
    | .file key =>
      let (n, m) := m.findOrMake key
      let actual := (m.segment n).size
      if actual ≠ 0 ∧ actual ≠ size then (.error (.sizeMismatch size actual), m)
      else if 0x8000000000000000 ≤ size then (.error (.cannotCreate invalidArgument), m)
      else
        let m := m.setSegment n { m.segment n with size }
        ((checkMappable freeAddresses size).map fun _ => (⟨n, size, name⟩, actual = 0), m)

/-- Map at least this much of an existing segment. -/
def openExisting (m : Memory) (name : String) (size : Nat) : Except SegmentError Mapping :=
  match nameFlaw? name with
  | some flaw => .error (.invalidName flaw)
  | none =>
    match Place.ofName name with
    | .nowhere | .directory => .error (.cannotOpen invalidArgument)
    | .file key =>
      match m.names.get? key with
      | none => .error (.notFound name)
      | some n =>
        if (m.segment n).size < size then .error (.sizeMismatch size (m.segment n).size)
        else (checkMappable freeAddresses size).map fun _ => ⟨n, size, name⟩

/-- Map a fresh segment that has no name. -/
def anonymous (m : Memory) (size : Nat) : Except SegmentError Mapping × Memory :=
  match checkMappable machineMemory size with
  | .error e => (.error e, m)
  | .ok () =>
    let (n, m) := m.push { size }
    (.ok ⟨n, size, ""⟩, m)

/-- Take a name away.  It is no error if nothing has this name or can have it,
unless the name is just too long for the system's directory. -/
def unlink (m : Memory) (name : String) : Except SegmentError Memory :=
  if '\x00' ∈ name.toList then .error (.invalidName name)
  else
    match Place.ofName name with
    | .nowhere => .ok m
    | .directory => .error (.cannotOpen isADirectory)
    | .file key =>
      if 255 < key.utf8ByteSize ∧ key.utf8ByteSize < 260 then .error (.cannotOpen nameTooLong)
      else .ok { m with names := m.names.erase key }

/-- Whether something has this name. -/
def exists? (m : Memory) (name : String) : Bool :=
  match Place.ofName name with
  | .nowhere => false
  | .directory => true
  | .file key => m.names.contains key

end Memory

end Admission
