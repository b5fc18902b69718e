import Admission.Client
import Admission.Proofs.Desk
import Admission.Proofs.Keeps

set_option autoImplicit false

/-!
# What the steps of a client do

Each step answers as its step on the slot does, and leaves the table with that one
slot rewritten.
-/

namespace Admission.Client

open Desk

variable {d : Desk}

/-! ## Claims -/

/-- What a claim comes to once the slot has decided: if it was granted, the worker is woken. -/
def follow (cl : Client) (granted : Bool) : Attempt Desk (Option Ticket) :=
  if granted then do
    Desk.signal cl.table (·.wakeWorker (cl.table.layout.workerForSlot cl.slot))
    return some ⟨cl.slot⟩
  else
    return none

theorem quiet_follow (cl : Client) (granted : Bool) :
    Quiet cl.table (cl.follow granted) (if granted then some ⟨cl.slot⟩ else none) := by
  cases granted with
  | true => exact (quiet_signal fun r i => Region.slot_wakeWorker r _ i).bind (quiet_pure _ _)
  | false => exact quiet_pure _ _

theorem metrics_follow (cl : Client) (granted : Bool) (d : Desk) :
    (cl.follow granted d).2.metrics = d.metrics := by
  cases granted <;> rfl

/-- What the section of a claim leaves. -/
def seized (cl : Client) (c : Connection) (status : Int32) (h : Host) : Host :=
  (Host.withSlot cl.table cl.slot
    (fun s => ((), (s.claim h.processes cl.pid c status).1)) h).2

theorem rewrites_seized (cl : Client) (c : Connection) (status : Int32) {h : Host}
    (hm : h.Maps cl.table) (hs : cl.slot < cl.table.layout.slots) :
    Host.Rewrites cl.table (Function.update (h.slot cl.table) cl.slot
      ((h.slot cl.table cl.slot).claim h.processes cl.pid c status).1) h
      (cl.seized c status h) :=
  (Host.withSlot_spec hm hs fun s => ((), (s.claim h.processes cl.pid c status).1)).2

/-- A claim goes through its section, logs and counts if it took the slot from a process that
is gone, and ends as the slot decided. -/
theorem claim_run (cl : Client) (c : Connection) (status : Int32) (hm : d.host.Maps cl.table)
    (hs : cl.slot < cl.table.layout.slots) :
    ∃ lines : List LogLine, cl.claim c status d =
      cl.follow ((d.host.slot cl.table cl.slot).claim d.host.processes cl.pid c status).2
        { metrics := if (d.host.slot cl.table cl.slot).heldByDead d.host.processes then
            d.metrics.count .slotReclaims else d.metrics
          host := (cl.seized c status d.host).say lines } := by
  let step (s : Slot) : (Option Pid × Bool) × Slot :=
    ((if s.heldByDead d.host.processes then some s.owner else none,
      (s.claim d.host.processes cl.pid c status).2),
      (s.claim d.host.processes cl.pid c status).1)
  have hhost : (Host.withSlot cl.table cl.slot step d.host).2 = cl.seized c status d.host := by
    simp only [seized, Host.withSlot, hs, if_true]
    rfl
  have hrun : onHost (Host.withSlot cl.table cl.slot step) d =
      (.done (step (d.host.slot cl.table cl.slot)).1,
        { d with host := cl.seized c status d.host }) :=
    Prod.ext (Host.withSlot_spec hm hs step).1 (congrArg (Desk.mk d.metrics) hhost)
  unfold claim
  rw [Attempt.gets_bind_apply]
  dsimp only
  rw [Attempt.bind_of_done hrun]
  dsimp only [step]
  cases (d.host.slot cl.table cl.slot).heldByDead d.host.processes with
  | true => exact ⟨_, rfl⟩
  | false =>
    refine ⟨[], ?_⟩
    have hsilent : (cl.seized c status d.host).say [] = cl.seized c status d.host := by
      rw [Host.say, List.append_nil]
    rw [hsilent]
    rfl

/-- A claim is granted as the slot grants it. -/
theorem claim_spec (cl : Client) (c : Connection) (status : Int32) (hm : d.host.Maps cl.table)
    (hs : cl.slot < cl.table.layout.slots) :
    Yields cl.table (cl.claim c status) d
      (if ((d.host.slot cl.table cl.slot).claim d.host.processes cl.pid c status).2 then
        some ⟨cl.slot⟩ else none)
      (Function.update (d.host.slot cl.table) cl.slot
        ((d.host.slot cl.table cl.slot).claim d.host.processes cl.pid c status).1) := by
  obtain ⟨lines, hrun⟩ := cl.claim_run c status hm hs
  have hleft := (cl.rewrites_seized c status hm hs).keep (Host.rewrites_say _ _ lines)
  obtain ⟨d', hfollow, hkeep⟩ := cl.quiet_follow
    ((d.host.slot cl.table cl.slot).claim d.host.processes cl.pid c status).2 ⟨_, _⟩
    (hleft.maps hm)
  exact ⟨d', hrun.trans hfollow, hleft.keep hkeep⟩

/-- A claim counts a reclaim if it takes the slot from a process that is gone, and no more. -/
theorem metrics_claim (cl : Client) (c : Connection) (status : Int32)
    (hm : d.host.Maps cl.table) (hs : cl.slot < cl.table.layout.slots) :
    (cl.claim c status d).2.metrics =
      if (d.host.slot cl.table cl.slot).heldByDead d.host.processes then
        d.metrics.count .slotReclaims
      else d.metrics := by
  obtain ⟨lines, hrun⟩ := cl.claim_run c status hm hs
  rw [hrun, metrics_follow]

/-- A claim keeps what its section, its log line, its count and its signal keep. -/
theorem claim_keeps {τ : Type} {g : Desk → τ} (cl : Client) (c : Connection) (status : Int32)
    (hsection : ∀ step : Slot → (Option Pid × Bool) × Slot,
      (onHost (Host.withSlot cl.table cl.slot step)).Keeps g)
    (hline : ∀ (level : LogLevel) (message : String), (say level message).Keeps g)
    (hcount : (count .slotReclaims).Keeps g)
    (hsignal : ∀ f : Region → Region, (signal cl.table f).Keeps g) :
    (cl.claim c status).Keeps g := by
  have hfollow (granted : Bool) : (cl.follow granted).Keeps g := by
    cases granted with
    | true => exact (hsignal _).bind fun _ => Attempt.keeps_pure _
    | false => exact Attempt.keeps_pure _
  unfold claim
  refine (Attempt.keeps_gets _).bind fun ps => (hsection _).bind ?_
  rintro ⟨lost, granted⟩
  cases lost with
  | none => exact hfollow granted
  | some owner => exact (hline _ _).bind fun _ => hcount.bind fun _ => hfollow granted

/-- To claim by a deadline keeps what a claim and the passing of time keep. -/
theorem claimBy_keeps {τ : Type} {g : Desk → τ} (cl : Client) (c : Connection) (status : Int32)
    (deadline : Nat) (naps : Nat → Nat) (hclaim : (cl.claim c status).Keeps g)
    (hwait : ∀ (d : Desk) (moment : Nat),
      g { d with host := d.host.waitUntil moment } = g d) :
    Attempt.Keeps g (cl.claimBy c status deadline naps) := by
  intro d
  have hkeep (d : Desk) : g (cl.claim c status d).2 = g d := hclaim d
  induction d using claimBy.induct cl c status deadline naps with
  | case1 d refused hrun hearly woken ih =>
    rw [claimBy, hrun]
    dsimp only
    rw [if_pos hearly, ih, hwait, ← hkeep d, hrun]
  | case2 d refused hrun hlate =>
    rw [claimBy, hrun]
    dsimp only
    rw [if_neg hlate, ← hkeep d, hrun]
  | case3 d hdone =>
    rw [claimBy, ← hkeep d]
    split
    · next refused hrun => exact absurd hrun (hdone refused)
    · rfl

/-! ## Verdicts -/

/-- A look for the verdict finds what the slot holds when it is answered. -/
theorem collect_spec (cl : Client) (ticket : Ticket) (hm : d.host.Maps cl.table)
    (hs : ticket.slot < cl.table.layout.slots) :
    Yields cl.table (cl.collect ticket) d
      ((d.host.slot cl.table ticket.slot).collect.2.map .ofRejection)
      (Function.update (d.host.slot cl.table) ticket.slot
        (d.host.slot cl.table ticket.slot).collect.1) := by
  unfold collect
  refine (yields_withSlot hm hs _).bind_quiet hm ?_
  dsimp only
  cases (d.host.slot cl.table ticket.slot).collect.2 with
  | some rejection =>
    exact (quiet_signal fun r i => Region.slot_wakeFreed r _ i).bind (quiet_pure _ _)
  | none => exact quiet_pure _ _

theorem abandon_spec (cl : Client) (ticket : Ticket) (hm : d.host.Maps cl.table)
    (hs : ticket.slot < cl.table.layout.slots) :
    Yields cl.table (cl.abandon ticket) d ()
      (Function.update (d.host.slot cl.table) ticket.slot
        ((d.host.slot cl.table ticket.slot).abandon cl.pid)) := by
  unfold abandon
  exact (yields_withSlot hm hs _).bind_quiet hm
    (quiet_signal fun r i => Region.slot_wakeFreed r _ i)

/-- A report that no slot could be claimed leaves the table alone. -/
theorem quiet_reportNoSlot (cl : Client) :
    Quiet cl.table cl.reportNoSlot (.abort claimTimeout) :=
  (quiet_count _ _).bind ((quiet_say _ _ _).bind (quiet_pure _ _))

/-! ## Round trips -/

section Advance

variable {cl : Client} {c : Connection} {status : Int32} {deadline : Option Nat} {d₁ d₂ : Desk}
  {ticket : Ticket} {verdict : Verdict}

/-- Whoever claims the slot waits for the verdict. -/
theorem advance_of_claimed (hrun : cl.claim c status d = (.done (some ticket), d₁)) :
    cl.advance c status deadline .claiming d = (.done (.waiting ticket), d₁) := by
  rw [advance, Attempt.gets_bind_apply]
  exact Attempt.bind_of_done hrun

/-- A claim in vain before the deadline will be tried again. -/
theorem advance_of_refused (hrun : cl.claim c status d = (.done none, d₁))
    (hearly : ¬ deadline.any (· ≤ d.host.clock) = true) :
    cl.advance c status deadline .claiming d = (.done .claiming, d₁) := by
  rw [advance, Attempt.gets_bind_apply]
  refine (Attempt.bind_of_done hrun).trans ?_
  simp only [hearly]
  rfl

/-- A claim in vain at the deadline is reported. -/
theorem advance_of_noSlot (hrun : cl.claim c status d = (.done none, d₁))
    (hlate : deadline.any (· ≤ d.host.clock) = true)
    (hreport : cl.reportNoSlot d₁ = (.done verdict, d₂)) :
    cl.advance c status deadline .claiming d = (.done (.over verdict), d₂) := by
  rw [advance, Attempt.gets_bind_apply]
  refine (Attempt.bind_of_done hrun).trans ?_
  simp only [hlate, if_true]
  exact Attempt.bind_of_done hreport

/-- Whoever finds the verdict is through. -/
theorem advance_of_answered (hrun : cl.collect ticket d = (.done (some verdict), d₁)) :
    cl.advance c status deadline (.waiting ticket) d = (.done (.over verdict), d₁) := by
  rw [advance, Attempt.gets_bind_apply]
  exact Attempt.bind_of_done hrun

/-- A look in vain before the deadline will be repeated. -/
theorem advance_of_pending (hrun : cl.collect ticket d = (.done none, d₁))
    (hearly : ¬ deadline.any (· ≤ d.host.clock) = true) :
    cl.advance c status deadline (.waiting ticket) d = (.done (.waiting ticket), d₁) := by
  rw [advance, Attempt.gets_bind_apply]
  refine (Attempt.bind_of_done hrun).trans ?_
  simp only [hearly]
  rfl

/-- A look in vain at the deadline is reported, and the request is given up. -/
theorem advance_of_noAnswer (hrun : cl.collect ticket d = (.done none, d₁))
    (hlate : deadline.any (· ≤ d.host.clock) = true)
    (hreport : cl.reportNoAnswer ticket d₁ = (.done verdict, d₂)) :
    cl.advance c status deadline (.waiting ticket) d = (.done (.over verdict), d₂) := by
  rw [advance, Attempt.gets_bind_apply]
  refine (Attempt.bind_of_done hrun).trans ?_
  simp only [hlate, if_true]
  exact Attempt.bind_of_done hreport

end Advance

end Admission.Client
