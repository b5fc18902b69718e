import Admission.Proofs.Traffic.Record

set_option autoImplicit false

/-!
# Stale tickets

A ticket is a slot and no more.  Once its slot was claimed again, whoever still has
the ticket meets the latest request there: a look for the verdict takes the verdict
of that request and gives the slot back, and giving up gives back the slot of any
request of the same process.  Nothing but the state of the latest request prevents
that, and the main statement says exactly when it does.
-/

namespace Admission.Traffic

variable (t : SlotTable) (errand : Nat → Errand)

/-- The visit has a ticket, and its slot was claimed again since. -/
def Stale (σ : Traffic) (v : Nat) : Prop :=
  ∃ n : Nat, (σ.phase v).turn? = some n ∧ n < σ.turns ((errand v).slot t)

/-- A look for the verdict finds none that is for the latest request of the slot, and
leaves the flag of the slot alone. -/
structure HarmlessAwait (σ : Traffic) (v : Nat) : Prop where
  verdict : ∀ a ∈ σ.answers, a.copy.slot = (errand v).slot t →
    a.turn = σ.turns ((errand v).slot t) → ∀ desk : Desk,
      ((errand v).client t).collect ((errand v).ticket t) σ.desk ≠
        (.done (some (.ofRejection (Slot.kept a.rejection))), desk)
  flag : ((σ.after t errand (.collect v)).slot t ((errand v).slot t)).available =
    (σ.slot t ((errand v).slot t)).available

/-- Giving up leaves the slot alone. -/
def HarmlessAbandon (σ : Traffic) (v : Nat) : Prop :=
  (σ.after t errand (.abandon v)).slot t ((errand v).slot t) = σ.slot t ((errand v).slot t)

/-- A look for the verdict gets the one for the latest request of the slot, and gives the
slot back. -/
def TakesVerdict (σ : Traffic) (v : Nat) : Prop :=
  ∃ a ∈ σ.answers, a.copy.slot = (errand v).slot t ∧
    a.turn = σ.turns ((errand v).slot t) ∧
    (∃ desk : Desk, ((errand v).client t).collect ((errand v).ticket t) σ.desk =
      (.done (some (.ofRejection (Slot.kept a.rejection))), desk)) ∧
    ((σ.after t errand (.collect v)).slot t ((errand v).slot t)).available = true

variable {t errand} {σ : Traffic} {v : Nat}

/-- An answer that waits is taken by anybody who looks. -/
theorem takesVerdict_of_done (hr : σ.Recorded t errand)
    (hpos : 0 < σ.turns ((errand v).slot t))
    (hdone : (σ.slot t ((errand v).slot t)).done = true) : σ.TakesVerdict t errand v := by
  obtain ⟨a, ha, hslot, hturn, hresult⟩ :=
    (hr.agrees _ ((errand v).slot_lt hr.maps.valid)).replied hpos hdone
  obtain ⟨desk, hrun, hafter, hleft⟩ := after_collect_done hr.maps v hdone
  rw [hresult] at hrun
  refine ⟨a, ha, hslot, hturn, ⟨desk, hrun⟩, ?_⟩
  rw [hafter]
  exact congrArg Slot.available hleft.slot_self

/-- While an answer is due, a look changes nothing, whoever looks. -/
theorem harmlessAwait_of_pending (hm : σ.desk.host.Maps t)
    (hdone : (σ.slot t ((errand v).slot t)).done = false) : σ.HarmlessAwait t errand v where
  verdict a _ _ _ desk hrun := by
    obtain ⟨desk', hrun', -⟩ := after_collect_pending hm v hdone
    rw [hrun'] at hrun
    cases hrun
  flag := by
    obtain ⟨desk, -, hafter, hleft⟩ := after_collect_pending hm v hdone
    rw [hafter]
    exact congrArg Slot.available (hleft.slot_at _)

theorem harmlessAbandon_iff (hm : σ.desk.host.Maps t) :
    σ.HarmlessAbandon t errand v ↔ (σ.slot t ((errand v).slot t)).available = true ∨
      (σ.slot t ((errand v).slot t)).owner ≠ (errand v).pid := by
  obtain ⟨desk, -, hafter, hleft⟩ := after_abandon errand hm v
  have hslot : (σ.after t errand (.abandon v)).slot t ((errand v).slot t) =
      (σ.slot t ((errand v).slot t)).abandon (errand v).pid := by
    rw [hafter]
    exact hleft.slot_self
  rw [HarmlessAbandon, hslot, Slot.abandon_eq_self_iff]

/-- A look with a stale ticket is harmless while the latest request is not answered, and
takes the verdict of that request from then on.  Giving up with one is harmless if the
latest request was given back already, or is of another process. -/
theorem stale_ticket_iff {rule : Traffic → Move → Prop} (h : Reaches t errand rule σ)
    (hstale : σ.Stale t errand v) :
    ∃ w : Nat, w ≠ v ∧
      σ.Claimed t errand w ((errand v).slot t) (σ.turns ((errand v).slot t)) ∧
      (σ.HarmlessAwait t errand v ↔ (σ.slot t ((errand v).slot t)).done = false) ∧
      ((σ.slot t ((errand v).slot t)).done = true → σ.TakesVerdict t errand v) ∧
      (σ.HarmlessAbandon t errand v ↔
        (σ.slot t ((errand v).slot t)).available = true ∨ (errand w).pid ≠ (errand v).pid) := by
  have hr := h.recorded
  obtain ⟨n, hn, hlt⟩ := hstale
  have hpos : 0 < σ.turns ((errand v).slot t) := by omega
  obtain ⟨w, hw, hcarries⟩ := (hr.agrees _ ((errand v).slot_lt hr.maps.valid)).latest hpos
  refine ⟨w, ?_, hw, ⟨fun hharmless => ?_, harmlessAwait_of_pending hr.maps⟩,
    takesVerdict_of_done hr hpos, ?_⟩
  · rintro rfl
    have hsame : n = σ.turns ((errand w).slot t) := Option.some.inj (hn.symm.trans hw.2)
    omega
  · rw [← Bool.not_eq_true]
    intro hdone
    obtain ⟨a, ha, hslot, hturn, ⟨desk, hrun⟩, -⟩ := takesVerdict_of_done hr hpos hdone
    exact hharmless.verdict a ha hslot hturn desk hrun
  · rw [harmlessAbandon_iff hr.maps, hcarries.owner_eq]

/-- Somebody early, and alice, who comes later to the lone table. -/
def latecomer : Nat → Errand
  | 0 => ⟨7, 0, { user := "early" }, 0⟩
  | _ => ⟨8, 0, { user := "alice" }, 0⟩

/-- The request of whoever was early is copied. -/
def earlyCopied : Traffic :=
  ((start (loneDesk [7, 8])).after lone latecomer (.claim 0)).after lone latecomer
    (.scan loneWorker)

/-- It is answered, but nobody is left to read the answer. -/
def earlyGone : Traffic :=
  (earlyCopied.after lone latecomer
    (.publish loneWorker ⟨0, 1, (latecomer 0).request 1⟩ none)).after lone latecomer (.die 7)

/-- Alice has claimed the slot, and her request is copied. -/
def aliceCopied : Traffic :=
  (earlyGone.after lone latecomer (.claim 1)).after lone latecomer (.scan loneWorker)

/-- The request of alice is answered, and she has not looked yet. -/
def aliceAnswered : Traffic :=
  aliceCopied.after lone latecomer
    (.publish loneWorker ⟨0, 2, (latecomer 1).request 2⟩ (some "no"))

/-- What the run comes to, moment by moment. -/
theorem latecomer_run :
    ⟨0, 1, (latecomer 0).request 1⟩ ∈ earlyCopied.copies ∧
      earlyGone.phase 1 = .arriving ∧
      ⟨0, 2, (latecomer 1).request 2⟩ ∈ aliceCopied.copies ∧
      (aliceAnswered.phase 0).turn? = some 1 ∧ aliceAnswered.turns 0 = 2 ∧
      aliceAnswered.phase 1 = .waiting 2 ∧ aliceAnswered.Alive latecomer 1 ∧
      (aliceAnswered.slot lone 0).available = false ∧
      (aliceAnswered.slot lone 0).collect.2 = some (some "no") ∧
      (aliceAnswered.slot lone 0).done = true ∧
      ((aliceAnswered.after lone latecomer (.collect 0)).slot lone 0).available = true := by
  decide +kernel

theorem reaches_aliceAnswered : Reaches lone latecomer (fun _ _ => True) aliceAnswered := by
  obtain ⟨hearly, harriving, halice, -⟩ := latecomer_run
  exact .move _ (.move _ (.move _ (.move _ (.move _ (.move _ (.move _
    (.start (fresh_loneDesk _)) rfl trivial) rfl trivial) ⟨rfl, hearly⟩ trivial) trivial trivial)
      harriving trivial) rfl trivial) ⟨rfl, halice⟩ trivial

theorem stale_aliceAnswered : aliceAnswered.Stale lone latecomer 0 := by
  obtain ⟨-, -, -, hturn, hturns, -⟩ := latecomer_run
  refine ⟨1, hturn, ?_⟩
  rw [show (latecomer 0).slot lone = 0 from rfl, hturns]
  decide

/-- The ticket of whoever was early is not harmless to alice. -/
theorem stale_ticket_iff_aliceAnswered : ¬ aliceAnswered.HarmlessAwait lone latecomer 0 := by
  obtain ⟨w, -, -, hawait, -⟩ := stale_ticket_iff reaches_aliceAnswered stale_aliceAnswered
  obtain ⟨-, -, -, -, -, -, -, -, -, hdone, -⟩ := latecomer_run
  rw [hawait, show (latecomer 0).slot lone = 0 from rfl, hdone]
  decide

/-- A stale ticket takes the verdict of a client that runs and waits for it, and gives the
slot of that client back. -/
theorem stale_ticket_takes_verdict :
    ∃ σ : Traffic, Reaches lone latecomer (fun _ _ => True) σ ∧ σ.Stale lone latecomer 0 ∧
      σ.Holds lone latecomer 1 0 ∧ (σ.slot lone 0).available = false ∧
      (∃ desk : Desk, ((latecomer 0).client lone).collect ((latecomer 0).ticket lone) σ.desk =
        (.done (some (.abort "no")), desk)) ∧
      ((σ.after lone latecomer (.collect 0)).slot lone 0).available = true := by
  obtain ⟨-, -, -, -, -, hwaiting, halive, hflag, hcollect, -, hafter⟩ := latecomer_run
  refine ⟨aliceAnswered, reaches_aliceAnswered, stale_aliceAnswered,
    ⟨rfl, ⟨2, hwaiting⟩, halive⟩, hflag, ?_, hafter⟩
  obtain ⟨desk, hrun, -⟩ :=
    collect_yields latecomer reaches_aliceAnswered.recorded.maps 0
  rw [show (latecomer 0).slot lone = 0 from rfl, hcollect] at hrun
  exact ⟨desk, hrun⟩

end Admission.Traffic
