import Admission.Proofs.Traffic.Record

set_option autoImplicit false

/-!
# Who holds a slot

As long as clients stop when their process dies and use a ticket once, a slot that is
not available was claimed last by somebody who still waits, or died waiting; and
whoever waits and runs made the latest claim.  `Owned` says both of one slot, and
the moves of orderly clients keep it for all.
-/

namespace Admission.Traffic

variable (t : SlotTable) (errand : Nat → Errand)

/-- The slot is held by the visit that claimed it last, or by nobody. -/
structure Owned (σ : Traffic) (s : Nat) : Prop where
  /-- Who waits and runs has made the latest claim and holds the slot. -/
  live : ∀ v n : Nat, (errand v).slot t = s → σ.phase v = .waiting n → σ.Alive errand v →
    n = σ.turns s ∧ (σ.slot t s).available = false
  /-- Who holds the slot still waits, or waited when it died. -/
  taken : (σ.slot t s).available = false →
    ∃ v : Nat, (errand v).slot t = s ∧ σ.phase v = .waiting (σ.turns s)

variable {t errand} {σ σ' : Traffic} {s : Nat}

/-! ## Holders -/

section Holders

variable (hr : σ.Recorded t errand) (ho : ∀ s < t.layout.slots, σ.Owned t errand s)

include hr ho

/-- The slot of a holder is not available and carries the request of the holder. -/
theorem Holds.spec {v : Nat} (h : σ.Holds t errand v s) :
    σ.phase v = .waiting (σ.turns s) ∧ (σ.slot t s).available = false ∧
      (σ.slot t s).Carries (errand v) := by
  obtain ⟨hslot, ⟨n, hn⟩, halive⟩ := h
  have hs : s < t.layout.slots := hslot ▸ (errand v).slot_lt hr.maps.valid
  obtain ⟨rfl, hflag⟩ := (ho s hs).live v n hslot hn halive
  have hv : σ.Claimed t errand v s (σ.turns s) := ⟨hslot, by rw [hn]; rfl⟩
  obtain ⟨w, hw, hcarries⟩ := (hr.agrees s hs).latest (hr.turn_le v s _ hv).1
  obtain rfl := hr.unique v w s _ hv hw
  exact ⟨hn, hflag, hcarries⟩

theorem Holds.unique {v w : Nat} (hv : σ.Holds t errand v s) (hw : σ.Holds t errand w s) :
    v = w := by
  have hnv := (hv.spec hr ho).1
  have hnw := (hw.spec hr ho).1
  exact hr.unique v w s (σ.turns s) ⟨hv.1, by rw [hnv]; rfl⟩ ⟨hw.1, by rw [hnw]; rfl⟩

/-- The owner that a held slot records runs. -/
theorem Holds.owner_alive {v : Nat} (h : σ.Holds t errand v s) :
    σ.processes.isAlive (σ.slot t s).owner = true := by
  rw [(h.spec hr ho).2.2.owner_eq]
  exact h.2.2

/-- A slot that somebody holds is not claimed. -/
theorem not_claimable_of_holds {v : Nat} (h : σ.Holds t errand v s) : ¬ σ.Claimable t s := by
  rintro ⟨-, hfree | hdead⟩
  · rw [(h.spec hr ho).2.1] at hfree
    cases hfree
  · rw [h.owner_alive hr ho] at hdead
    cases hdead

/-- A slot that somebody holds is not taken from the holder. -/
theorem reclaim_of_holds {v : Nat} (h : σ.Holds t errand v s) :
    (σ.slot t s).reclaim σ.processes = σ.slot t s := by
  have hnot : ¬ (σ.slot t s).heldByDead σ.processes = true := by
    rw [Slot.heldByDead_iff, h.owner_alive hr ho]
    simp
  rw [Slot.reclaim, if_neg hnot]

end Holders

namespace Owned

/-! ## What keeps a slot owned -/

/-- What does not concern a slot leaves it with its holder. -/
theorem frame (h : σ.Owned t errand s)
    (hflag : (σ'.slot t s).available = (σ.slot t s).available)
    (hturns : σ'.turns s = σ.turns s)
    (hwaiting : ∀ v n : Nat, (errand v).slot t = s →
      (σ'.phase v = .waiting n ↔ σ.phase v = .waiting n))
    (halive : ∀ v : Nat, σ'.Alive errand v → σ.Alive errand v) : σ'.Owned t errand s where
  live v n hslot hn hv := by
    rw [hflag, hturns]
    exact h.live v n hslot ((hwaiting v n hslot).mp hn) (halive v hv)
  taken hfalse := by
    obtain ⟨v, hslot, hn⟩ := h.taken (hflag ▸ hfalse)
    exact ⟨v, hslot, (hwaiting v _ hslot).mpr (hturns ▸ hn)⟩

/-- A slot that is available is well owned if nobody holds it. -/
theorem of_free (hflag : (σ'.slot t s).available = true)
    (hnone : ∀ v : Nat, ¬ σ'.Holds t errand v s) : σ'.Owned t errand s where
  live v n hslot hn hv := absurd ⟨hslot, ⟨n, hn⟩, hv⟩ (hnone v)
  taken hfalse := by
    rw [hflag] at hfalse
    cases hfalse

/-- A slot that was granted belongs to the visit that claimed it, if nobody held it. -/
theorem of_granted {v : Nat} {desk : Desk} {slots : Nat → Slot}
    (hslot : (errand v).slot t = s) (hleft : Host.Rewrites t slots σ.desk.host desk.host)
    (hflag : ((σ.granted v s desk).slot t s).available = false)
    (hnone : ∀ u : Nat, ¬ σ.Holds t errand u s) : (σ.granted v s desk).Owned t errand s where
  live u n hu hn halive := by
    refine ⟨?_, hflag⟩
    by_cases heq : u = v
    · subst heq
      rw [granted_phase_self] at hn
      rw [granted_turns_self]
      exact (Phase.waiting.inj hn).symm
    · rw [granted_phase_of_ne _ _ _ _ heq] at hn
      exact absurd ⟨hu, ⟨n, hn⟩, (alive_iff hleft).mp halive⟩ (hnone u)
  taken _ := ⟨v, hslot, by rw [granted_phase_self, granted_turns_self]⟩

/-! ## The moves -/

theorem start {d : Desk} (h : Fresh t d) (hs : s < t.layout.slots) :
    (Traffic.start d).Owned t errand s := by
  have hstart : (Traffic.start d).Recorded t errand := .start h
  have hidle := (hstart.agrees s hs).unclaimed rfl
  refine .of_free (Slot.isIdle_iff.mp hidle).1 ?_
  rintro v ⟨-, ⟨n, hn⟩, -⟩
  cases hn

variable (hr : σ.Recorded t errand) (ho : ∀ s < t.layout.slots, σ.Owned t errand s)

/-- A move that leaves flags, turns and visits alone leaves every slot with its holder. -/
theorem keep (h : σ.Owned t errand s) {slots : Nat → Slot}
    (hleft : Host.Rewrites t slots σ.desk.host σ'.desk.host)
    (hflag : (slots s).available = (σ.slot t s).available) (hturns : σ'.turns = σ.turns)
    (hphase : σ'.phase = σ.phase) : σ'.Owned t errand s := by
  refine h.frame ?_ (congrFun hturns s) (fun v n _ => by rw [hphase])
    fun _ => (alive_iff hleft).mp
  exact (congrArg Slot.available (hleft.slot_at s)).trans hflag

include hr ho

/-- A holder that gives its slot back and waits no more leaves the slot free. -/
theorem handBack {v : Nat} (hv : σ.Holds t errand v s) {p : Phase}
    (hp : ∀ n : Nat, p ≠ .waiting n) {desk : Desk} {new : Slot} (hnew : new.available = true)
    (hleft : Host.Rewrites t (Function.update (σ.slot t) s new) σ.desk.host desk.host)
    {other : Nat} (hother : other < t.layout.slots) :
    ({ σ with desk, phase := Function.update σ.phase v p } : Traffic).Owned t errand other := by
  by_cases heq : other = s
  · subst heq
    refine .of_free ?_ ?_
    · exact (congrArg Slot.available hleft.slot_self).trans hnew
    · rintro u ⟨hslot, ⟨n, hn⟩, halive⟩
      by_cases hu : u = v
      · subst hu
        exact hp n ((Function.update_self _ _ _).symm.trans hn)
      · have hn' : σ.phase u = .waiting n := (Function.update_of_ne hu _ _).symm.trans hn
        exact hu (Holds.unique hr ho ⟨hslot, ⟨n, hn'⟩, (alive_iff hleft).mp halive⟩ hv)
  · refine (ho other hother).frame ?_ rfl ?_ fun _ => (alive_iff hleft).mp
    · exact congrArg Slot.available (hleft.slot_of_ne heq)
    · intro u n hslot
      have hu : u ≠ v := by
        rintro rfl
        exact heq (hslot.symm.trans hv.1)
      show Function.update σ.phase v p u = .waiting n ↔ _
      rw [Function.update_of_ne hu]

/-- A claim is granted when nobody holds the slot, and makes its visit the holder. -/
theorem claim_granted {v : Nat} (hclaimable : σ.Claimable t ((errand v).slot t))
    (hs : s < t.layout.slots) : (σ.after t errand (.claim v)).Owned t errand s := by
  obtain ⟨desk, -, hafter, hleft⟩ := after_claim_granted hr.maps v hclaimable
  rw [hafter]
  by_cases heq : s = (errand v).slot t
  · subst heq
    refine .of_granted rfl hleft (congrArg Slot.available hleft.slot_self) ?_
    intro u hu
    exact not_claimable_of_holds hr ho hu hclaimable
  · refine (ho s hs).frame ?_ (granted_turns_of_ne _ _ _ _ heq) ?_
      fun _ => (alive_iff hleft).mp
    · exact congrArg Slot.available (hleft.slot_of_ne heq)
    · intro u n hslot
      have hu : u ≠ v := by
        rintro rfl
        exact heq hslot.symm
      rw [granted_phase_of_ne _ _ _ _ hu]

/-- A claim that is refused gives back no slot but that of a holder that is gone. -/
theorem claim_refused {v : Nat} (hnot : ¬ σ.Claimable t ((errand v).slot t))
    (hs : s < t.layout.slots) : (σ.after t errand (.claim v)).Owned t errand s := by
  obtain ⟨desk, -, hafter, hleft⟩ := after_claim_refused hr.maps v hnot
  rw [hafter]
  have hslot := hleft.slot_at s
  have hloose : (σ.slot t s).Loosened (desk.host.slot t s) :=
    hslot ▸ .update (.reclaim _ _) s
  cases hflag : (desk.host.slot t s).available with
  | false =>
    refine (ho s hs).keep hleft ?_ rfl rfl
    rw [← hslot, hloose.eq_of_held hflag]
  | true =>
    refine .of_free hflag ?_
    rintro u ⟨hu, hn, halive⟩
    have hholds : σ.Holds t errand u s := ⟨hu, hn, (alive_iff hleft).mp halive⟩
    have hsame : desk.host.slot t s = σ.slot t s := by
      rw [hslot, Function.update_apply]
      split
      · next heq => rw [← heq, reclaim_of_holds hr ho hholds]
      · rfl
    rw [hsame, (hholds.spec hr ho).2.1] at hflag
    cases hflag

theorem collect {v : Nat} (hv : σ.Holds t errand v ((errand v).slot t))
    (hs : s < t.layout.slots) : (σ.after t errand (.collect v)).Owned t errand s := by
  cases hdone : (σ.slot t ((errand v).slot t)).done with
  | true =>
    obtain ⟨desk, -, hafter, hleft⟩ := after_collect_done hr.maps v hdone
    rw [hafter]
    refine handBack hr ho hv ?_ rfl hleft hs
    intro n
    rw [(hv.spec hr ho).1]
    nofun
  | false =>
    obtain ⟨desk, -, hafter, hleft⟩ := after_collect_pending hr.maps v hdone
    rw [hafter]
    exact (ho s hs).keep hleft rfl rfl rfl

theorem abandon {v : Nat} (hv : σ.Holds t errand v ((errand v).slot t))
    (hs : s < t.layout.slots) : (σ.after t errand (.abandon v)).Owned t errand s := by
  obtain ⟨desk, -, hafter, hleft⟩ := after_abandon errand hr.maps v
  rw [Slot.abandon_of_owner (hv.spec hr ho).2.2.owner_eq] at hleft
  rw [hafter]
  refine handBack hr ho hv ?_ rfl hleft hs
  intro n
  rw [(hv.spec hr ho).1]
  nofun

omit ho in
theorem turnAway (h : σ.Owned t errand s) {v : Nat} (hv : σ.phase v = .arriving) :
    (σ.after t errand (.turnAway v)).Owned t errand s := by
  obtain ⟨desk, -, hafter, hleft⟩ := after_turnAway errand hr.maps v
  rw [hafter]
  refine h.frame (congrArg Slot.available (hleft.slot_at s)) rfl ?_
    fun _ => (alive_iff hleft).mp
  intro u n _
  by_cases hu : u = v
  · subst hu
    simp [hv]
  · simp [Function.update_of_ne hu]

omit ho in
theorem scan (h : σ.Owned t errand s) {w : Worker} (hw : w.table = t) :
    (σ.after t errand (.scan w)).Owned t errand s := by
  obtain ⟨desk, copies, hafter, hleft, -⟩ := after_scan errand hr.maps hw
  rw [hafter]
  exact h.keep hleft rfl rfl rfl

omit hr ho in
theorem decide (h : σ.Owned t errand s) {settings : ClientAuthSettings} {w : Worker}
    (hw : w.table = t) {copy : Copy} (hleft : Host.Rewrites t (σ.slot t) σ.desk.host
      (Shift.decide settings copy.request ⟨w, σ.desk⟩).2.desk.host) :
    (σ.after t errand (.decide settings w copy)).Owned t errand s := by
  obtain ⟨decisions, hafter, -⟩ := after_decide errand hw settings copy
  rw [hafter]
  exact h.keep hleft rfl rfl rfl

omit ho in
theorem publish (h : σ.Owned t errand s) {w : Worker} (hw : w.table = t) {copy : Copy}
    (hcopy : copy ∈ σ.copies) (rejection : Option String) :
    (σ.after t errand (.publish w copy rejection)).Owned t errand s := by
  obtain ⟨hs, -⟩ := hr.copied copy hcopy
  by_cases htaken : (σ.slot t copy.slot).generation = copy.request.generation ∧
      (σ.slot t copy.slot).done = false
  case neg =>
    obtain ⟨desk, hafter, hleft⟩ :=
      after_publish_stale errand hr.maps hw hs rejection htaken
    rw [hafter]
    exact h.keep hleft rfl rfl rfl
  case pos =>
    obtain ⟨desk, hafter, hleft⟩ := after_publish_taken errand hr.maps hw hs
      rejection htaken.1 htaken.2
    rw [hafter]
    refine h.keep hleft ?_ rfl rfl
    rw [Function.update_apply]
    split
    · next heq => rw [heq, Slot.setResult_available]
    · rfl

omit hr ho in
theorem die (h : σ.Owned t errand s) (pid : Pid) :
    (σ.after t errand (.die pid)).Owned t errand s :=
  h.frame rfl rfl (fun _ _ _ => Iff.rfl) fun _ => Processes.isAlive_of_without

/-- Every move of orderly clients leaves every slot with its holder. -/
theorem after {m : Move} (hm : σ.Permits t m) (horderly : σ.Orderly errand m)
    (hs : s < t.layout.slots) : (σ.after t errand m).Owned t errand s := by
  have h := ho s hs
  cases m with
  | claim v =>
    by_cases hclaimable : σ.Claimable t ((errand v).slot t)
    · exact claim_granted hr ho hclaimable hs
    · exact claim_refused hr ho hclaimable hs
  | collect v => exact collect hr ho ⟨rfl, horderly.2, horderly.1⟩ hs
  | abandon v => exact abandon hr ho ⟨rfl, horderly.2, horderly.1⟩ hs
  | turnAway v => exact h.turnAway hr hm
  | scan w => exact h.scan hr hm
  | decide settings w copy => exact h.decide hm.1 hm.2.2
  | publish w copy rejection => exact h.publish hr hm.1 hm.2 rejection
  | die pid => exact h.die pid
  | elsewhere desk => exact h.keep hm rfl rfl rfl

end Owned

/-- With orderly clients every slot belongs to its holder at every moment. -/
theorem Reaches.owned (h : Reaches t errand (Orderly errand) σ) :
    ∀ s < t.layout.slots, σ.Owned t errand s := by
  induction h with
  | start hfresh => exact fun s hs => .start hfresh hs
  | move m hreaches hm horderly ih =>
    exact fun s hs => .after hreaches.recorded ih hm horderly hs

end Admission.Traffic
