import Admission.Catalog.Basic
import Admission.Duration
import Admission.Fault
import Admission.Session.Basic
import Admission.Table.Basic

set_option autoImplicit false

/-!
# The host

What all parties share: the running processes, the catalog, the faults planned
for it, the shared memory, and the record of what was logged and traced.
-/

namespace Admission

/-- The shared state of all parties. -/
structure Host where
  processes : Processes
  catalog : Catalog := {}
  faults : FaultPlan := .none
  memory : Memory := {}
  /-- The tables that procedures know by name. -/
  tables : Dict String SlotTable := .empty
  /-- The lines that procedures left, the oldest first. -/
  trace : List String := []
  /-- The lines that were logged, the oldest first. -/
  log : List LogLine := []
  /-- How long parties have waited for each other, in nanoseconds. -/
  clock : Nat := 0
  deriving Inhabited

namespace Host

/-- Log some lines. -/
def say (h : Host) (lines : List LogLine) : Host :=
  { h with log := h.log ++ lines }

/-- Let time pass until a moment. -/
def waitUntil (h : Host) (moment : Nat) : Host :=
  { h with clock := max h.clock moment }

/-- The moment at which a span that begins now is over, if the clock can tell it. -/
def momentAfter? (h : Host) (d : Duration) : Option Nat :=
  let moment := h.clock + d.length
  if moment < Duration.clockRange then some moment else none

/-- The contents of a table. -/
def region (h : Host) (t : SlotTable) : Region :=
  h.memory.region t.segment

/-- Replace the contents of a table. -/
def setRegion (h : Host) (t : SlotTable) (r : Region) : Host :=
  { h with memory := h.memory.setRegion t.segment r }

/-- Do something with the contents of a table under its lock. -/
def locked {α : Type} (h : Host) (t : SlotTable) (body : Region → α × Region) : α × Host :=
  let (r, lines) := (h.region t).locking h.processes
  let (a, r) := body r
  (a, (h.setRegion t r).say lines)

/-- Do something with one slot of a table under its lock.  A slot beyond the
layout is a panic. -/
def withSlot {α : Type} (t : SlotTable) (index : Nat) (step : Slot → α × Slot) : Attempt Host α :=
  fun h =>
    h.locked t fun r =>
      if index < t.layout.slots then
        let (a, s) := step (r.slot index)
        (.done a, r.setSlot index s)
      else
        (.unwound (.text s!"slot index {index} out of range"), r)

/-- Write parts of a slot. -/
def changeSlot (t : SlotTable) (index : Nat) (c : SlotChange) : Attempt Host Unit :=
  withSlot t index fun s => ((), s.change c)

/-- Try to own the pool of a table. -/
def claimPool (h : Host) (t : SlotTable) : SlotTable.PoolClaim × Host :=
  let r := h.region t
  let (claim, header) := SlotTable.claimPool h.processes r.header
  (claim, (h.setRegion t { r with header }).say claim.log)

/-- Give up the pool of a table, if the caller owns it. -/
def releasePool (h : Host) (t : SlotTable) : Host :=
  let r := h.region t
  h.setRegion t { r with header := SlotTable.releasePool h.processes r.header }

/-- The process recorded as the owner of the pool of a table. -/
def poolOwner (h : Host) (t : SlotTable) : Pid :=
  (h.region t).header.poolOwner

/-- Look at the slots of a table under its lock. -/
def snapshot (h : Host) (t : SlotTable) : List SlotSnapshot × Host :=
  h.locked t fun r => (r.snapshot h.processes t.layout, r)

/-- Let the next planned fault of a point strike. -/
def strike (point : FaultPoint) : Attempt Host Unit :=
  fun h =>
    let (fault, plan) := h.faults.next point
    ((fault.map Fault.ending).getD (.done ()), { h with faults := plan })

/-- Give the catalog an order. -/
def order (o : CatalogOrder) : Attempt Host Unit :=
  .ofExcept fun h => (h.catalog.obey o).map fun c => ((), { h with catalog := c })

/-- Define a procedure in the catalog. -/
def define (database schema name : String) (body : Procedure) : Attempt Host Unit :=
  .ofExcept fun h =>
    (h.catalog.define database schema name body).map fun c => ((), { h with catalog := c })

/-- Whether a database exists. -/
def databaseExists (name : String) : Attempt Host Bool := do
  strike .databaseExists
  .gets fun h => h.catalog.exists? name

/-- Open a session on a database. -/
def connect (database : String) : Attempt Host Session := do
  strike .connect
  .ofExcept fun h => (h.catalog.database? database).map fun _ => (⟨database, []⟩, h)

end Host

end Admission
