import Admission.Proofs.Client
import Admission.Proofs.Keeps
import Admission.Proofs.Worker

set_option autoImplicit false

/-!
# Bells

A table has a bell for each of its signals: one for every worker, and two for every
slot, which tell that the slot was answered and that it may be free.  A step of a party
is a section under the table lock and some ringing afterwards; only a claim rings
inside.  Sections leave all bells as they are, and a ring changes one bell and no slot.
-/

namespace Admission

open Attempt

/-- The signals of a table. -/
inductive Bell where
  /-- A worker has something to do. -/
  | work (worker : Nat)
  /-- The request in a slot was answered. -/
  | answered (slot : Nat)
  /-- A slot may have become free. -/
  | freed (slot : Nat)
  deriving DecidableEq, Repr, Inhabited

/-- The table has this bell. -/
def Bell.On (t : SlotTable) : Bell → Prop
  | .work i => i < t.layout.workers
  | .answered s | .freed s => s < t.layout.slots

namespace Region

/-- The signal behind a bell. -/
def bell (r : Region) : Bell → Signal
  | .work i => r.workerSignal i
  | .answered s => (r.cell s).answered
  | .freed s => (r.cell s).freed

/-- The contents after a ring. -/
def ring (r : Region) : Bell → Region
  | .work i => r.wakeWorker i
  | .answered s => r.wakeAnswered s
  | .freed s => r.wakeFreed s

@[simp] theorem slot_ring (r : Region) (b : Bell) (i : Nat) : (r.ring b).slot i = r.slot i := by
  cases b <;> simp [ring]

theorem workerSignal_setCell (r : Region) (index : Nat) (c : Cell) (i : Nat) :
    (r.setCell index c).workerSignal i = r.workerSignal i := rfl

/-- A ring is counted at its own bell. -/
theorem bell_ring {r : Region} {t : SlotTable} (hv : t.layout.Valid) {b : Bell} (hb : b.On t)
    (other : Bell) :
    (r.ring b).bell other = if other = b then (r.bell b).send else r.bell other := by
  obtain ⟨-, hworkers, hslots⟩ := hv
  cases b with
  | work i =>
    have hi : i < maxSlots := by have : i < t.layout.workers := hb; omega
    cases other with
    | work j =>
      by_cases hj : j = i
      · simp [bell, ring, wakeWorker, workerSignal, hj, hi]
      · simp [bell, ring, wakeWorker, workerSignal, hj, Ne.symm hj]
    | answered s => simp [bell, ring, wakeWorker, cell]
    | freed s => simp [bell, ring, wakeWorker, cell]
  | answered s =>
    have hs : s < maxSlots := Nat.lt_of_lt_of_le hb hslots
    cases other with
    | work j => simp [bell, ring, wakeAnswered, workerSignal_setCell]
    | answered s' =>
      by_cases h : s' = s
      · simp [bell, ring, wakeAnswered, cell_setCell, h, hs]
      · simp [bell, ring, wakeAnswered, cell_setCell, h]
    | freed s' =>
      by_cases h : s' = s
      · simp [bell, ring, wakeAnswered, cell_setCell, h, hs]
      · simp [bell, ring, wakeAnswered, cell_setCell, h]
  | freed s =>
    have hs : s < maxSlots := Nat.lt_of_lt_of_le hb hslots
    cases other with
    | work j => simp [bell, ring, wakeFreed, workerSignal_setCell]
    | answered s' =>
      by_cases h : s' = s
      · simp [bell, ring, wakeFreed, cell_setCell, h, hs]
      · simp [bell, ring, wakeFreed, cell_setCell, h]
    | freed s' =>
      by_cases h : s' = s
      · simp [bell, ring, wakeFreed, cell_setCell, h, hs]
      · simp [bell, ring, wakeFreed, cell_setCell, h]

@[simp] theorem bell_setSlot (r : Region) (index : Nat) (s : Slot) (b : Bell) :
    (r.setSlot index s).bell b = r.bell b := by
  cases b with
  | work i => rfl
  | answered i =>
    simp only [bell, setSlot, cell_setCell]
    split
    · next h => rw [h.1]
    · rfl
  | freed i =>
    simp only [bell, setSlot, cell_setCell]
    split
    · next h => rw [h.1]
    · rfl

@[simp] theorem bell_locking (r : Region) (ps : Processes) (b : Bell) :
    (r.locking ps).1.bell b = r.bell b := by
  unfold locking
  split <;> cases b <;> rfl

end Region

/-! ## Bells of a host -/

namespace Host

/-- The signal behind a bell of a table. -/
def bell (h : Host) (t : SlotTable) (b : Bell) : Signal :=
  (h.region t).bell b

/-- Of two changes of the contents the second one counts. -/
theorem setRegion_setRegion {h : Host} {t : SlotTable}
    (ht : t.segment < h.memory.segments.length) (r r' : Region) :
    (h.setRegion t r).setRegion t r' = h.setRegion t r' := by
  simp [setRegion, Memory.setRegion, Memory.setSegment, Memory.segment, ht]

theorem bell_setRegion {h : Host} {t : SlotTable} (ht : t.segment < h.memory.segments.length)
    (r : Region) (b : Bell) : (h.setRegion t r).bell t b = r.bell b := by
  rw [bell, region, setRegion, Memory.region_setRegion ht]

/-- A section whose body leaves the bells alone does so. -/
theorem bell_locked {α : Type} {h : Host} {t : SlotTable}
    (ht : t.segment < h.memory.segments.length) {body : Region → α × Region}
    (hbody : ∀ (r : Region) (b : Bell), (body r).2.bell b = r.bell b) (b : Bell) :
    (h.locked t body).2.bell t b = h.bell t b := by
  rw [locked]
  exact (bell_setRegion ht _ b).trans ((hbody _ b).trans (Region.bell_locking _ _ b))

/-- So does a step on one slot. -/
theorem bell_withSlot {α : Type} {h : Host} {t : SlotTable}
    (ht : t.segment < h.memory.segments.length) (index : Nat) (step : Slot → α × Slot) (b : Bell) :
    (withSlot t index step h).2.bell t b = h.bell t b := by
  refine bell_locked ht (fun r b => ?_) b
  split
  · exact Region.bell_setSlot r _ _ b
  · rfl

end Host

namespace Desk

/-- What leaves the bells of the host alone does so at a desk. -/
theorem bell_onHost {α : Type} {t : SlotTable} {d : Desk} {x : Attempt Host α}
    (hx : ∀ b : Bell, (x d.host).2.bell t b = d.host.bell t b) (b : Bell) :
    (onHost x d).2.host.bell t b = d.host.bell t b :=
  hx b

/-- A step on one slot, taken at a desk, leaves the bells alone. -/
theorem bell_withSlot {α : Type} {t : SlotTable} {d : Desk} (hm : d.host.Maps t) (index : Nat)
    (step : Slot → α × Slot) (b : Bell) :
    (onHost (Host.withSlot t index step) d).2.host.bell t b = d.host.bell t b :=
  bell_onHost (Host.bell_withSlot hm.mapped index step) b

/-- Ring some bells of a table, one after the other. -/
def rings (t : SlotTable) (bells : List Bell) : Attempt Desk Unit :=
  signal t fun r => bells.foldl Region.ring r

/-- The desk after one ring. -/
def rung (t : SlotTable) (b : Bell) (d : Desk) : Desk :=
  (rings t [b] d).2

variable {t : SlotTable} {d : Desk}

/-- Several rings are one ring after the other. -/
theorem rings_cons (hm : d.host.Maps t) (b : Bell) (bells : List Bell) :
    rings t (b :: bells) d = rings t bells (d.rung t b) := by
  have hregion : (d.rung t b).host.region t = (d.host.region t).ring b :=
    Memory.region_setRegion hm.mapped _
  refine Prod.ext rfl ?_
  simp only [rings, signal, modify_apply, List.foldl_cons, hregion]
  exact congrArg (fun h => { d with host := h })
    (Host.setRegion_setRegion hm.mapped ((d.host.region t).ring b) _).symm

/-- They change the desk one by one. -/
theorem desk_rings (hm : d.host.Maps t) (b : Bell) (bells : List Bell) :
    (rings t (b :: bells) d).2 = (b :: bells).foldl (fun d b => d.rung t b) d := by
  induction bells generalizing d b with
  | nil => rfl
  | cons next rest ih =>
    have hm' : (d.rung t b).host.Maps t := (Host.rewrites_setRegion hm _).maps hm
    rw [rings_cons hm]
    exact ih hm' next

theorem rung_spec (hm : d.host.Maps t) {b : Bell} (hb : b.On t) :
    Host.Rewrites t (d.host.slot t) d.host (d.rung t b).host ∧
      ∀ other : Bell, (d.rung t b).host.bell t other =
        if other = b then (d.host.bell t b).send else d.host.bell t other := by
  constructor
  · have hslots : ((d.host.region t).ring b).slot = d.host.slot t :=
      funext fun i => Region.slot_ring _ b i
    exact hslots ▸ Host.rewrites_setRegion hm _
  · intro other
    exact (Host.bell_setRegion hm.mapped _ other).trans (Region.bell_ring hm.valid hb other)

end Desk

/-! ## Steps as sections and rings -/

namespace Client

/-- Look for the verdict, under the lock. -/
def look (cl : Client) (ticket : Ticket) : Attempt Desk (Option (Option String)) :=
  Desk.onHost <| Host.withSlot cl.table ticket.slot fun s => (s.collect.2, s.collect.1)

/-- Give the slot back, under the lock. -/
def letGo (cl : Client) (ticket : Ticket) : Attempt Desk Unit :=
  Desk.onHost <| Host.withSlot cl.table ticket.slot fun s => ((), s.abandon cl.pid)

/-- Who finds the verdict rings that the slot is free. -/
theorem collect_eq (cl : Client) (ticket : Ticket) :
    cl.collect ticket = cl.look ticket >>= fun found =>
      match found with
      | some rejection => do
        Desk.rings cl.table [.freed ticket.slot]
        return some (.ofRejection rejection)
      | none => return none := rfl

/-- Who gives up rings so in any case. -/
theorem abandon_eq (cl : Client) (ticket : Ticket) :
    cl.abandon ticket = cl.letGo ticket >>= fun _ =>
      Desk.rings cl.table [.freed ticket.slot] := rfl

section Sections

variable {d : Desk} (cl : Client) (ticket : Ticket) (hm : d.host.Maps cl.table)

include hm

theorem look_spec (hs : ticket.slot < cl.table.layout.slots) :
    Desk.Yields cl.table (cl.look ticket) d (d.host.slot cl.table ticket.slot).collect.2
      (Function.update (d.host.slot cl.table) ticket.slot
        (d.host.slot cl.table ticket.slot).collect.1) :=
  Desk.yields_withSlot hm hs _

theorem bell_look (b : Bell) :
    (cl.look ticket d).2.host.bell cl.table b = d.host.bell cl.table b := by
  rw [look]
  exact Desk.bell_withSlot hm _ _ b

theorem letGo_spec (hs : ticket.slot < cl.table.layout.slots) :
    Desk.Yields cl.table (cl.letGo ticket) d ()
      (Function.update (d.host.slot cl.table) ticket.slot
        ((d.host.slot cl.table ticket.slot).abandon cl.pid)) :=
  Desk.yields_withSlot hm hs _

theorem bell_letGo (b : Bell) :
    (cl.letGo ticket d).2.host.bell cl.table b = d.host.bell cl.table b := by
  rw [letGo]
  exact Desk.bell_withSlot hm _ _ b

theorem bell_seized (c : Connection) (status : Int32) (b : Bell) :
    (cl.seized c status d.host).bell cl.table b = d.host.bell cl.table b := by
  rw [seized]
  exact Host.bell_withSlot hm.mapped _ _ b

/-- A claim that is granted rings for the worker, and one that is refused does not ring. -/
theorem bell_claim (c : Connection) (status : Int32) (hs : cl.slot < cl.table.layout.slots)
    (b : Bell) :
    (cl.claim c status d).2.host.bell cl.table b =
      if ((d.host.slot cl.table cl.slot).claim d.host.processes cl.pid c status).2 then
        (d.rung cl.table (.work (cl.table.layout.workerForSlot cl.slot))).host.bell cl.table b
      else d.host.bell cl.table b := by
  have hwork : (Bell.work (cl.table.layout.workerForSlot cl.slot)).On cl.table :=
    Layout.workerForSlot_lt hm.valid cl.slot
  obtain ⟨lines, hrun⟩ := cl.claim_run c status hm hs
  rw [hrun]
  -- The section rings nowhere, and neither does what is logged and counted.
  generalize hdone : Desk.mk _ ((cl.seized c status d.host).say lines) = d₁
  have hm₁ : d₁.host.Maps cl.table := by
    rw [← hdone]
    exact ((cl.rewrites_seized c status hm hs).keep (Host.rewrites_say _ _ lines)).maps hm
  have hsame (b : Bell) : d₁.host.bell cl.table b = d.host.bell cl.table b := by
    rw [← hdone]
    exact cl.bell_seized hm c status b
  cases ((d.host.slot cl.table cl.slot).claim d.host.processes cl.pid c status).2 with
  | true =>
    have hring := (Desk.rung_spec hm₁ hwork).2 b
    rw [hsame, hsame] at hring
    exact hring.trans ((Desk.rung_spec hm hwork).2 b).symm
  | false => exact hsame b

end Sections

theorem bell_reportNoSlot (cl : Client) (d : Desk) (t : SlotTable) (b : Bell) :
    (cl.reportNoSlot d).2.host.bell t b = d.host.bell t b := rfl

end Client

namespace Shift

/-- Put an answer into a slot, under the lock; says whether the slot took it. -/
def putIn (w : Worker) (slot : Nat) (r : Request) (rejection : Option String) :
    Attempt Shift Bool :=
  atDesk <| Desk.onHost <| Host.withSlot w.table slot fun s =>
    match s.answer? r rejection with
    | some s' => (true, s')
    | none => (false, s)

/-- A worker whose answer was taken rings that the slot is answered, and then that it may
be free. -/
theorem publish_eq_putIn (slot : Nat) (r : Request) (rejection : Option String) (s : Shift) :
    publish slot r rejection s =
      (putIn s.worker slot r rejection >>= fun taken =>
        if taken then atDesk (Desk.rings s.worker.table [.answered slot, .freed slot])
        else signOff s.worker slot false) s := by
  rfl

variable {s : Shift}

theorem putIn_spec (hm : s.desk.host.Maps s.worker.table) {slot : Nat}
    (hs : slot < s.worker.table.layout.slots) (r : Request) (rejection : Option String) :
    ∃ d : Desk,
      putIn s.worker slot r rejection s =
        (.done ((s.desk.host.slot s.worker.table slot).answer? r rejection).isSome,
          { s with desk := d }) ∧
      Host.Rewrites s.worker.table
        (Function.update (s.desk.host.slot s.worker.table) slot
          (((s.desk.host.slot s.worker.table slot).answer? r rejection).getD
            (s.desk.host.slot s.worker.table slot)))
        s.desk.host d.host := by
  obtain ⟨step, hstep, -⟩ := publish_eq slot r rejection s
  have hput : putIn s.worker slot r rejection =
      atDesk (Desk.onHost (Host.withSlot s.worker.table slot step)) := by
    have heq : step = fun s => match s.answer? r rejection with
        | some s' => (true, s')
        | none => (false, s) := by
      funext s
      rw [hstep]
      cases s.answer? r rejection <;> rfl
    rw [heq]
    rfl
  obtain ⟨d, hrun, hleft⟩ := atDesk_of_yields (s := s) (Desk.yields_withSlot hm hs step)
  rw [hstep] at hrun hleft
  exact ⟨d, by rw [hput, hrun], hleft⟩

theorem bell_putIn (hm : s.desk.host.Maps s.worker.table) (slot : Nat) (r : Request)
    (rejection : Option String) (b : Bell) :
    (putIn s.worker slot r rejection s).2.desk.host.bell s.worker.table b =
      s.desk.host.bell s.worker.table b := by
  rw [putIn, atDesk, onPart_apply]
  exact Desk.bell_withSlot hm _ _ b

/-- A scan rings nowhere. -/
theorem bell_takePending (hm : s.desk.host.Maps s.worker.table) (b : Bell) :
    (takePending s).2.desk.host.bell s.worker.table b = s.desk.host.bell s.worker.table b := by
  by_cases hw : s.worker.slots = []
  · rw [takePending_without_slots hw]
  · rw [(takePending_snd hw).2]
    exact Host.bell_locked hm.mapped (fun _ _ => rfl) b

end Shift

end Admission
