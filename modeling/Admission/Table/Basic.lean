import Admission.Memory.Segment
import Admission.PoolError
import Admission.Text.Escaped

set_option autoImplicit false

/-!
# Slot tables

A slot table is a mapped segment together with the layout that its header
records.  The first to attach initializes it; everybody else must want the same
layout and changes nothing by attaching.
-/

namespace Admission

/-- A handle on a slot table. -/
structure SlotTable where
  /-- Which segment holds the table. -/
  segment : Nat
  /-- The name of the segment; empty for an anonymous one. -/
  name : String
  layout : Layout
  deriving DecidableEq, Repr, Inhabited

/-- What an attempt to open a table leaves. -/
structure Opened where
  result : Except PoolError SlotTable
  memory : Memory
  log : List LogLine := []

namespace SlotTable

/-- Nothing was opened. -/
def refused (e : PoolError) (m : Memory) (log : List LogLine) : Opened :=
  ⟨.error e, m, log⟩

/-- Check that a header is ready and marks a table. -/
def checkHeader (h : Header) (name : String) : Except PoolError Unit :=
  if h.readiness ≠ .ready then .error (.segment (.neverReady name))
  else if h.isTable then .ok ()
  else
    .error (.incompatible <|
      s!"magic 0x{String.ofList (Text.hexDigits 8 h.magic.toNat)} version {h.version}")

/-- Initialize the table in a mapped segment, if nobody has, and check that it
has the layout that is wanted. -/
def settle (m : Memory) (map : Mapping) (l : Layout) (log : List LogLine) : Opened :=
  let untouched := (m.region map.segment).header.readiness = .untouched
  let m := if untouched then m.setRegion map.segment ((m.region map.segment).madeReady l) else m
  let log :=
    if untouched then
      log ++ [⟨.debug, s!"[SLOTS] Initialized table: {l.slots} slots, {l.workers} workers"⟩]
    else log
  let h := (m.region map.segment).header
  match checkHeader h map.name with
  | .error e => refused e m log
  | .ok () =>
    if h.layout = l then ⟨.ok ⟨map.segment, map.name, l⟩, m, log⟩
    else refused (.layoutMismatch l h.layout) m log

/-- Attach to the table of this name, or to a fresh anonymous one if the name is
empty. -/
def attach (m : Memory) (name : String) (l : Layout) : Opened :=
  if name = "" then
    match m.anonymous Segment.tableSize with
    | (.error e, m) => refused (.segment e) m []
    | (.ok map, m) => settle m map l []
  else
    match m.openOrCreate name Segment.tableSize with
    | (.error e, m) => refused (.segment e) m []
    | (.ok (map, created), m) =>
      settle m map l <|
        if created then
          [⟨.debug, s!"[SLOTS] Created table segment {name} ({map.size} bytes)"⟩]
        else []

/-- Attach to an initialized table and take its layout from the header. -/
def openExisting (m : Memory) (name : String) : Except PoolError SlotTable :=
  match m.openExisting name Segment.tableSize with
  | .error e => .error (.segment e)
  | .ok map => do
    let h := (m.region map.segment).header
    checkHeader h name
    match Layout.of? h.layout.slots h.layout.workers with
    | .error e => .error (.settings e)
    | .ok l => .ok ⟨map.segment, name, l⟩

/-! ## Ownership of the pool -/

/-- What an attempt to own the pool comes to. -/
inductive PoolClaim where
  | owned
  /-- The caller took over from a process that is gone. -/
  | tookOver (previous : Pid)
  /-- A running process owns the pool. -/
  | refused (owner : Pid)
  deriving DecidableEq, Repr

/-- Try to own the worker pool of a table. -/
def claimPool (ps : Processes) (h : Header) : PoolClaim × Header :=
  if ps.isAlive h.poolOwner then (.refused h.poolOwner, h)
  else
    (if h.poolOwner = 0 then .owned else .tookOver h.poolOwner, { h with poolOwner := ps.self })

/-- What is logged about an attempt to own the pool. -/
def PoolClaim.log : PoolClaim → List LogLine
  | .tookOver previous =>
    [⟨.warn, s!"[SLOTS] Took over pool ownership from dead process {previous}"⟩]
  | _ => []

/-- Give up the pool, if the caller owns it. -/
def releasePool (ps : Processes) (h : Header) : Header :=
  if h.poolOwner = ps.self then { h with poolOwner := 0 } else h

end SlotTable

/-- One slot as diagnostics show it. -/
structure SlotSnapshot where
  index : Nat
  worker : Nat
  owner : Pid
  ownerAlive : Bool
  available : Bool
  done : Bool
  generation : UInt32
  error : Bool
  message : String
  user : String
  database : String
  status : Int32
  deriving DecidableEq, Repr, Inhabited

namespace SlotSnapshot

/-- The snapshot of a slot. -/
def ofSlot (ps : Processes) (index : Nat) (s : Slot) : SlotSnapshot where
  index := index
  worker := s.worker.toNat
  owner := s.owner
  ownerAlive := ps.isAlive s.owner
  available := s.available
  done := s.done
  generation := s.generation
  error := s.error
  message := s.message.toString
  user := s.connection.user.toString
  database := s.connection.database.toString
  status := s.status

/-- The state of the slot. -/
def state (s : SlotSnapshot) : SlotState :=
  .ofFlags s.available s.done

/-- Never claimed, or claimed and given back with its answer read. -/
def isIdle (s : SlotSnapshot) : Bool :=
  s.available && s.done

end SlotSnapshot

/-- The snapshots of the slots of a layout. -/
def Region.snapshot (r : Region) (ps : Processes) (l : Layout) : List SlotSnapshot :=
  (List.range l.slots).map fun i => .ofSlot ps i (r.slot i)

end Admission
