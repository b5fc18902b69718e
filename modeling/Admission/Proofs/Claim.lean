import Admission.Proofs.Residue
import Admission.Proofs.Table.Segments

set_option autoImplicit false

/-!
# Claiming a slot by a deadline

Whoever claims a slot tries, sleeps, and tries again.  As long as nobody else acts, the first
try decides: what it refuses is refused until the deadline, and the tries after it change
nothing more.
-/

namespace Admission

/-- A slot holds a request as it was submitted: trimmed, without a verdict yet, and of the
next generation. -/
structure Slot.Submitted (before : Slot) (pid : Pid) (c : Connection) (status : Int32)
    (s : Slot) : Prop where
  connection : c.Trims s.connection.load
  status_eq : s.status = status
  owner_eq : s.owner = pid
  result_eq : s.result? = none
  message_eq : s.message.toString = ""
  generation_eq : s.generation.toNat = (before.generation.toNat + 1) % UInt32.size
  available_eq : s.available = false
  done_eq : s.done = false
  worker_eq : s.worker = before.worker

/-- What a claim that is granted leaves is submitted, whatever the slot held before. -/
theorem Slot.submitted_of_granted {s : Slot} {ps : Processes} {pid : Pid} {c : Connection}
    {status : Int32} (h : (s.claim ps pid c status).2 = true) :
    s.Submitted pid c status (s.claim ps pid c status).1 := by
  rw [claim_of_granted h, reclaim_eq]
  refine ⟨?trims, rfl, rfl, rfl, ?message, ?generation, rfl, rfl, rfl⟩
  case trims =>
    rw [publishRequest_load]
    exact c.trims_cut
  case message => exact FixedString.toString_clear s.message
  case generation =>
    rw [publishRequest_generation, UInt32.toNat_add]
    rfl

namespace Client

open Desk

variable {d d' d'' : Desk} {cl : Client} {c : Connection} {status : Int32}

/-- The slot that a client uses, as it is at a desk. -/
def slotAt (cl : Client) (d : Desk) : Slot :=
  d.host.slot cl.table cl.slot

/-- What one try to claim leaves behind, as far as the clock does not tell. -/
structure Tried (cl : Client) (c : Connection) (status : Int32) (d d' : Desk) : Prop where
  rewrites : Host.Rewrites cl.table
    (Function.update (d.host.slot cl.table) cl.slot
      ((cl.slotAt d).claim d.host.processes cl.pid c status).1) d.host d'.host
  metrics_eq : d'.metrics = if (cl.slotAt d).heldByDead d.host.processes then
    d.metrics.count .slotReclaims else d.metrics
  segment_eq : ∀ n : Nat, n ≠ cl.table.segment →
    d'.host.memory.segment n = d.host.memory.segment n

/-- What a try answers. -/
def answer (cl : Client) (c : Connection) (status : Int32) (d : Desk) : Option Ticket :=
  if ((cl.slotAt d).claim d.host.processes cl.pid c status).2 then some ⟨cl.slot⟩ else none

/-- A try takes no time, and leaves all segments but that of the table alone. -/
theorem claim_tried (cl : Client) (c : Connection) (status : Int32)
    (hm : d.host.Maps cl.table) (hs : cl.slot < cl.table.layout.slots) :
    ∃ d' : Desk, cl.claim c status d = (.done (cl.answer c status d), d') ∧
      cl.Tried c status d d' ∧ d'.host.clock = d.host.clock := by
  obtain ⟨d', hrun, hrewrites⟩ := cl.claim_spec c status hm hs
  have hd' : d' = (cl.claim c status d).2 := (congrArg Prod.snd hrun).symm
  have hclock : (cl.claim c status).Keeps (·.host.clock) :=
    cl.claim_keeps c status (fun _ _ => rfl) (fun _ _ _ => rfl) (fun _ => rfl) fun _ _ => rfl
  have hsegment (n : Nat) (hn : n ≠ cl.table.segment) :
      (cl.claim c status).Keeps (·.host.memory.segment n) :=
    cl.claim_keeps c status (fun _ _ => Memory.segment_setRegion_of_ne hn _) (fun _ _ _ => rfl)
      (fun _ => rfl) fun _ _ => Memory.segment_setRegion_of_ne hn _
  refine ⟨d', hrun, ⟨hrewrites, ?_, fun n hn => ?_⟩, ?_⟩
  · rw [hd', cl.metrics_claim c status hm hs]
    rfl
  · rw [hd']
    exact hsegment n hn d
  · rw [hd']
    exact hclock d

theorem tried_of_claim (cl : Client) {answer : Option Ticket}
    (hm : d.host.Maps cl.table) (hs : cl.slot < cl.table.layout.slots)
    (hrun : cl.claim c status d = (.done answer, d')) :
    cl.answer c status d = answer ∧ cl.Tried c status d d' ∧ d'.host.clock = d.host.clock := by
  obtain ⟨d₁, hrun₁, htried, hclock⟩ := cl.claim_tried c status hm hs
  rw [hrun₁] at hrun
  cases hrun
  exact ⟨rfl, htried, hclock⟩

theorem answer_eq_none_iff :
    cl.answer c status d = none ↔
      ((cl.slotAt d).claim d.host.processes cl.pid c status).2 = false := by
  unfold answer
  split
  · next h => simp [h]
  · next h => simp [h]

theorem answer_eq_some_iff :
    cl.answer c status d = some ⟨cl.slot⟩ ↔
      ((cl.slotAt d).claim d.host.processes cl.pid c status).2 = true := by
  unfold answer
  split
  · next h => simp [h]
  · next h => simp [h]

theorem answer_eq_none_of_ne (h : cl.answer c status d ≠ some ⟨cl.slot⟩) :
    cl.answer c status d = none := by
  rw [answer_eq_none_iff]
  exact Bool.eq_false_iff.mpr fun hgranted => h (answer_eq_some_iff.mpr hgranted)

namespace Tried

/-- A try that was refused leaves the slot at most reclaimed. -/
theorem slotAt_of_refused (h : cl.Tried c status d d') (hrefused : cl.answer c status d = none) :
    cl.slotAt d' = (cl.slotAt d).reclaim d.host.processes :=
  h.rewrites.slot_self.trans (Slot.claim_of_refused (answer_eq_none_iff.mp hrefused))

/-- After a try that was refused there is nothing to reclaim. -/
theorem heldByDead_of_refused (h : cl.Tried c status d d')
    (hrefused : cl.answer c status d = none) :
    (cl.slotAt d').heldByDead d'.host.processes = false := by
  rw [h.slotAt_of_refused hrefused, h.rewrites.processes_eq]
  exact Slot.heldByDead_reclaim

/-- After a try that was refused the next one finds nothing else to do. -/
theorem claim_again (h : cl.Tried c status d d') (hrefused : cl.answer c status d = none) :
    (cl.slotAt d').claim d'.host.processes cl.pid c status = (cl.slotAt d', false) := by
  rw [h.slotAt_of_refused hrefused, h.rewrites.processes_eq]
  exact Slot.claim_reclaim (answer_eq_none_iff.mp hrefused)

/-- What is refused is refused again. -/
theorem answer_again (h : cl.Tried c status d d') (hrefused : cl.answer c status d = none) :
    cl.answer c status d' = none := by
  rw [answer_eq_none_iff, h.claim_again hrefused]

/-- Two tries of which the first was refused leave behind what that one left. -/
theorem trans (h : cl.Tried c status d d') (hrefused : cl.answer c status d = none)
    (h' : cl.Tried c status d' d'') : cl.Tried c status d d'' where
  rewrites := by
    have hsame : Function.update (d'.host.slot cl.table) cl.slot
        ((cl.slotAt d').claim d'.host.processes cl.pid c status).1 = d'.host.slot cl.table := by
      rw [h.claim_again hrefused]
      exact Function.update_eq_self _ _
    have hkeep := h'.rewrites
    rw [hsame] at hkeep
    exact h.rewrites.keep hkeep
  metrics_eq := by
    rw [h'.metrics_eq, h.heldByDead_of_refused hrefused, if_neg Bool.false_ne_true]
    exact h.metrics_eq
  segment_eq n hn := (h'.segment_eq n hn).trans (h.segment_eq n hn)

/-- To wait before a try makes no difference to what it leaves. -/
theorem of_wait {moment : Nat}
    (h : cl.Tried c status { d with host := d.host.waitUntil moment } d') :
    cl.Tried c status d d' where
  rewrites := ⟨h.rewrites.slot_eq, h.rewrites.processes_eq, h.rewrites.segments_eq⟩
  metrics_eq := h.metrics_eq
  segment_eq := h.segment_eq

end Tried

/-- However often a claim is tried, it is answered as by the first try, which also leaves the
same behind; and it is given up no sooner than at the deadline. -/
theorem claimBy_tried (cl : Client) (c : Connection) (status : Int32) (deadline : Nat)
    (naps : Nat → Nat) (hm : d.host.Maps cl.table) (hs : cl.slot < cl.table.layout.slots) :
    ∃ d' : Desk, cl.claimBy c status deadline naps d = (.done (cl.answer c status d), d') ∧
      cl.Tried c status d d' ∧ (cl.answer c status d = none → deadline ≤ d'.host.clock) := by
  -- The tries after one that was refused find the slot as that one left it.
  induction d using claimBy.induct cl c status deadline naps with
  | case1 d refused hrun hearly woken ih =>
    obtain ⟨hanswer, htried, -⟩ := cl.tried_of_claim hm hs hrun
    have hagain : cl.answer c status { refused with host := woken } = none :=
      htried.answer_again hanswer
    obtain ⟨d', hrest, htried', hlate⟩ := ih ⟨(htried.rewrites.maps hm).mapped, hm.valid⟩
    rw [hagain] at hrest
    rw [claimBy, hrun, hanswer]
    dsimp only
    rw [if_pos hearly]
    exact ⟨d', hrest, htried.trans hanswer htried'.of_wait, fun _ => hlate hagain⟩
  | case2 d refused hrun hlate =>
    obtain ⟨hanswer, htried, hclock⟩ := cl.tried_of_claim hm hs hrun
    rw [claimBy, hrun, hanswer]
    dsimp only
    rw [if_neg hlate]
    refine ⟨refused, rfl, htried, fun _ => ?_⟩
    rw [hclock]
    exact Nat.le_of_not_lt hlate
  | case3 d hgranted =>
    obtain ⟨d', hrun, htried, -⟩ := cl.claim_tried c status hm hs
    rw [claimBy, hrun]
    cases hanswer : cl.answer c status d with
    | some ticket =>
      refine ⟨d', rfl, htried, fun hnone => ?_⟩
      cases hnone
    | none => exact absurd (hanswer ▸ hrun) (hgranted d')

/-- What comes of a claim by a deadline while nobody else acts. -/
structure ClaimEnds (cl : Client) (c : Connection) (status : Int32) (deadline : Nat) (d : Desk)
    (answer : Option Ticket) (d' : Desk) : Prop where
  granted_iff : answer = some ⟨cl.slot⟩ ↔ (cl.slotAt d).done = true ∧
    ((cl.slotAt d).available = true ∨ d.host.processes.isAlive (cl.slotAt d).owner = false)
  submitted : answer = some ⟨cl.slot⟩ →
    (cl.slotAt d).Submitted cl.pid c status (cl.slotAt d')
  expired : answer ≠ some ⟨cl.slot⟩ → answer = none ∧ deadline ≤ d'.host.clock
  slot_eq : answer ≠ some ⟨cl.slot⟩ → cl.slotAt d' =
    if (cl.slotAt d).heldByDead d.host.processes then { cl.slotAt d with available := true }
    else cl.slotAt d
  released : answer ≠ some ⟨cl.slot⟩ → (cl.slotAt d').heldByDead d'.host.processes = false
  metrics_eq : d'.metrics = if (cl.slotAt d).heldByDead d.host.processes then
      { d.metrics with slotReclaims := d.metrics.slotReclaims + 1 }
    else d.metrics
  slot_of_ne : ∀ other : Nat, other ≠ cl.slot →
    d'.host.slot cl.table other = d.host.slot cl.table other
  segment_eq : ∀ n : Nat, n ≠ cl.table.segment →
    d'.host.memory.segment n = d.host.memory.segment n

/-- What a try left is what becomes of the claim. -/
theorem Tried.claimEnds (h : cl.Tried c status d d') {deadline : Nat}
    (hlate : cl.answer c status d = none → deadline ≤ d'.host.clock) :
    cl.ClaimEnds c status deadline d (cl.answer c status d) d' where
  granted_iff := answer_eq_some_iff.trans Slot.claim_granted_iff
  submitted hgranted := by
    have hslot : cl.slotAt d' = ((cl.slotAt d).claim d.host.processes cl.pid c status).1 :=
      h.rewrites.slot_self
    rw [hslot]
    exact Slot.submitted_of_granted (answer_eq_some_iff.mp hgranted)
  expired hnot := by
    have hrefused := answer_eq_none_of_ne hnot
    exact ⟨hrefused, hlate hrefused⟩
  slot_eq hnot := h.slotAt_of_refused (answer_eq_none_of_ne hnot)
  released hnot := h.heldByDead_of_refused (answer_eq_none_of_ne hnot)
  metrics_eq := h.metrics_eq
  slot_of_ne other hother := h.rewrites.slot_of_ne hother
  segment_eq := h.segment_eq

/-- Whatever the slots hold and whenever the deadline is, a claim comes to its end: it is granted
exactly if the last request was answered and nobody who runs holds the slot. -/
theorem claimBy_ends (t : SlotTable) (pid : Pid) (key : Nat) (c : Connection) (status : Int32)
    (deadline : Nat) (naps : Nat → Nat) {d : Desk} (hm : d.host.Maps t) :
    ∃ (answer : Option Ticket) (d' : Desk),
      (forConnection t pid key).claimBy c status deadline naps d = (.done answer, d') ∧
        (forConnection t pid key).ClaimEnds c status deadline d answer d' := by
  have hs : (forConnection t pid key).slot < t.layout.slots :=
    Layout.slotForKey_lt hm.valid key
  obtain ⟨d', hrun, htried, hlate⟩ := (forConnection t pid key).claimBy_tried c status
    deadline naps hm hs
  exact ⟨_, d', hrun, htried.claimEnds hlate⟩

/-- The lone table after a process claimed its slot that does not run any more. -/
def strandedDesk : Desk :=
  ((forConnection Traffic.lone 9 0).claim { user := "alice" } 0 (Traffic.loneDesk [7])).2

theorem claimBy_ends_stranded :
    strandedDesk.host.Maps Traffic.lone ∧
      ((forConnection Traffic.lone 7 0).slotAt strandedDesk).heldByDead
        strandedDesk.host.processes = true ∧
      ∃ (answer : Option Ticket) (d' : Desk),
        (forConnection Traffic.lone 7 0).claimBy { user := "bob" } 0 5 (fun _ => 1) strandedDesk =
            (.done answer, d') ∧
          (forConnection Traffic.lone 7 0).ClaimEnds { user := "bob" } 0 5 strandedDesk
            answer d' := by
  have hm : strandedDesk.host.Maps Traffic.lone := ⟨by decide +kernel, by decide⟩
  exact ⟨hm, by decide +kernel, claimBy_ends Traffic.lone 7 0 _ 0 5 _ hm⟩

end Client

end Admission
