import Admission.Proofs.Traffic.Moves

set_option autoImplicit false

/-!
# The record agrees with the table

Whatever anybody does, a slot carries the request of its latest claim, its
generation is the number of that claim, and it is answered exactly when an answer
was taken in that turn.  `Recorded` is that agreement, and every move of every rule
keeps it.
-/

namespace Admission.Traffic

variable (t : SlotTable) (errand : Nat → Errand)

/-- The record agrees with one slot. -/
structure Agrees (σ : Traffic) (s : Nat) : Prop where
  generation : (σ.slot t s).generation = UInt32.ofNat (σ.turns s)
  unclaimed : σ.turns s = 0 → (σ.slot t s).isIdle = true
  /-- A slot that was claimed carries the request of the latest claim. -/
  latest : 0 < σ.turns s →
    ∃ v : Nat, σ.Claimed t errand v s (σ.turns s) ∧ (σ.slot t s).Carries (errand v)
  /-- A slot that is not done has no answer for its latest claim. -/
  pending : (σ.slot t s).done = false →
    ∀ a ∈ σ.answers, a.copy.slot = s → a.turn ≠ σ.turns s
  /-- A slot that is done holds the answer for its latest claim. -/
  replied : 0 < σ.turns s → (σ.slot t s).done = true →
    ∃ a ∈ σ.answers, a.copy.slot = s ∧ a.turn = σ.turns s ∧
      (σ.slot t s).result? = Slot.kept a.rejection

/-- The record agrees with the table, and with itself. -/
structure Recorded (σ : Traffic) : Prop where
  maps : σ.desk.host.Maps t
  agrees : ∀ s < t.layout.slots, σ.Agrees t errand s
  turn_le : ∀ v s n : Nat, σ.Claimed t errand v s n → 0 < n ∧ n ≤ σ.turns s
  /-- No turn was given to two visits. -/
  unique : ∀ v w s n : Nat, σ.Claimed t errand v s n → σ.Claimed t errand w s n → v = w
  /-- A copy is a copy of the request of its turn. -/
  copied : ∀ c ∈ σ.copies, c.slot < t.layout.slots ∧
    ∃ v : Nat, σ.Claimed t errand v c.slot c.turn ∧ c.request = (errand v).request c.turn
  /-- An answer was decided from a copy of its turn, or of one whose number looks the same. -/
  answered : ∀ a ∈ σ.answers, a.copy ∈ σ.copies ∧ a.copy.turn ≤ a.turn ∧
    a.turn ≤ σ.turns a.copy.slot ∧ UInt32.ofNat a.copy.turn = UInt32.ofNat a.turn
  /-- No turn of a slot was answered twice. -/
  once : (σ.answers.map fun a => (a.copy.slot, a.turn)).Nodup

variable {t errand} {σ σ' : Traffic}

theorem Claimed.slot_lt {v s n : Nat} (h : σ.Claimed t errand v s n) (hv : t.layout.Valid) :
    s < t.layout.slots :=
  h.1 ▸ (errand v).slot_lt hv

theorem Loosens.claimed_iff (h : Loosens t σ σ') {v s n : Nat} :
    σ'.Claimed t errand v s n ↔ σ.Claimed t errand v s n := by
  simp only [Claimed, h.turn?_eq]

namespace Agrees

variable {s : Nat}

/-- What does not concern a slot leaves the record in agreement with it. -/
theorem frame (h : σ.Agrees t errand s) (hslot : σ'.slot t s = σ.slot t s)
    (hturns : σ'.turns s = σ.turns s)
    (hclaimed : ∀ v n : Nat, σ.Claimed t errand v s n → σ'.Claimed t errand v s n)
    (hanswers : ∀ a : Answer, a.copy.slot = s → (a ∈ σ'.answers ↔ a ∈ σ.answers)) :
    σ'.Agrees t errand s where
  generation := by rw [hslot, hturns, h.generation]
  unclaimed := by rw [hslot, hturns]; exact h.unclaimed
  latest hpos := by
    rw [hturns] at hpos
    obtain ⟨v, hv, hcarries⟩ := h.latest hpos
    rw [hslot, hturns]
    exact ⟨v, hclaimed v _ hv, hcarries⟩
  pending hdone a ha hs := by
    rw [hslot] at hdone
    rw [hturns]
    exact h.pending hdone a ((hanswers a hs).mp ha) hs
  replied hpos hdone := by
    rw [hturns] at hpos
    rw [hslot] at hdone
    obtain ⟨a, ha, hs, hturn, hresult⟩ := h.replied hpos hdone
    rw [hslot, hturns]
    exact ⟨a, (hanswers a hs).mpr ha, hs, hturn, hresult⟩

theorem loosen (h : σ.Agrees t errand s) (hl : Loosens t σ σ') : σ'.Agrees t errand s where
  generation := by rw [(hl.slot s).generation_eq, hl.turns_eq, h.generation]
  unclaimed hzero := (hl.slot s).isIdle (h.unclaimed (hl.turns_eq ▸ hzero))
  latest hpos := by
    rw [hl.turns_eq] at hpos ⊢
    obtain ⟨v, hv, hcarries⟩ := h.latest hpos
    exact ⟨v, hl.claimed_iff.mpr hv, (hl.slot s).carries_iff.mpr hcarries⟩
  pending hdone := by
    rw [(hl.slot s).done_eq] at hdone
    rw [hl.turns_eq, hl.answers_eq]
    exact h.pending hdone
  replied hpos hdone := by
    rw [hl.turns_eq] at hpos
    rw [(hl.slot s).done_eq] at hdone
    rw [(hl.slot s).result?_eq, hl.turns_eq, hl.answers_eq]
    exact h.replied hpos hdone

/-- A slot whose answer is due was claimed. -/
theorem turns_pos (h : σ.Agrees t errand s) (hdone : (σ.slot t s).done = false) :
    0 < σ.turns s := by
  by_contra hzero
  have hidle := h.unclaimed (by omega)
  rw [(Slot.isIdle_iff.mp hidle).2] at hdone
  cases hdone

/-- What a scan copies is the request of the latest claim. -/
theorem request_eq (h : σ.Agrees t errand s) {v : Nat} (hv : (σ.slot t s).Carries (errand v)) :
    (σ.slot t s).request = (errand v).request (σ.turns s) := by
  simp only [Slot.request, Errand.request, h.generation, hv.connection_eq, hv.status_eq]

/-- The answer that a slot takes is the one recorded for its latest claim. -/
theorem answer (h : σ.Agrees t errand s) (hdone : (σ.slot t s).done = false) {copy : Copy}
    (hcopy : copy.slot = s) {rejection : Option String}
    (hslot : σ'.slot t s = { (σ.slot t s).setResult rejection with done := true })
    (hturns : σ'.turns = σ.turns) (hphase : σ'.phase = σ.phase)
    {w : Worker} (hanswer : ⟨⟨w, copy, rejection⟩, σ.turns s⟩ ∈ σ'.answers) :
    σ'.Agrees t errand s where
  generation := by rw [hslot, hturns, Slot.setResult_generation, h.generation]
  unclaimed hzero := by
    have hpos := h.turns_pos hdone
    rw [hturns] at hzero
    omega
  latest hpos := by
    rw [hturns] at hpos ⊢
    obtain ⟨v, ⟨hv, hturn⟩, howner, hconnection, hstatus⟩ := h.latest hpos
    refine ⟨v, ⟨hv, by rw [hphase, hturn]⟩, ?_, ?_, ?_⟩
    · rw [hslot, Slot.setResult_owner, howner]
    · rw [hslot, Slot.setResult_connection, hconnection]
    · rw [hslot, Slot.setResult_status, hstatus]
  pending hpending := by
    rw [hslot] at hpending
    cases hpending
  replied _ _ := by
    refine ⟨_, hanswer, hcopy, by rw [hturns], ?_⟩
    rw [hslot]
    exact Slot.result?_setResult _ _

/-- A claim that is granted is the latest from then on, and its answer is due. -/
theorem claim (h : σ.Agrees t errand s) {ps : Processes} {v : Nat}
    (hslot : σ'.slot t s = ((σ.slot t s).reclaim ps).publishRequest
      (errand v).pid (errand v).connection (errand v).status)
    (hturns : σ'.turns s = σ.turns s + 1) (hv : σ'.Claimed t errand v s (σ.turns s + 1))
    (hanswers : ∀ a ∈ σ'.answers, a.copy.slot = s → a.turn ≤ σ.turns s) :
    σ'.Agrees t errand s where
  generation := by
    rw [hslot, hturns, Slot.publishRequest_generation, Slot.reclaim_eq, UInt32.ofNat_add,
      ← h.generation]
    rfl
  unclaimed hzero := by omega
  latest _ := by
    refine ⟨v, hturns ▸ hv, ?_, ?_, ?_⟩
    · rw [hslot, Slot.publishRequest_owner]
    · rw [hslot, Slot.publishRequest_load]
    · rw [hslot, Slot.publishRequest_status]
  pending _ a ha hs := by
    have hle := hanswers a ha hs
    omega
  replied _ hdone := by
    rw [hslot, Slot.publishRequest_done] at hdone
    cases hdone

end Agrees

namespace Recorded

/-! ## The start -/

theorem start {d : Desk} (h : Fresh t d) : (Traffic.start d).Recorded t errand := by
  obtain ⟨hm, r, hready⟩ := h
  refine
    { maps := hm
      agrees := fun s hs => ?_
      turn_le := fun v s n hv => ?_
      unique := fun v w s n hv => ?_
      copied := fun c hc => ?_
      answered := fun a ha => ?_
      once := List.nodup_nil }
  · have hreset : (Traffic.start d).slot t s =
        (r.slot s).reset (t.layout.workerForSlot s) := by
      rw [slot, Host.slot, show (Traffic.start d).desk.host.region t = _ from hready]
      exact r.slot_madeReady hm.valid hs
    exact
      { generation := by rw [hreset]; rfl
        unclaimed := fun _ => by rw [hreset]; rfl
        latest := fun hpos => absurd hpos (Nat.lt_irrefl 0)
        pending := fun hdone => by rw [hreset] at hdone; cases hdone
        replied := fun hpos => absurd hpos (Nat.lt_irrefl 0) }
  · cases hv.2
  · cases hv.2
  · cases hc
  · cases ha

/-! ## The moves -/

/-- Giving slots back and ending visits leaves nothing to be recorded. -/
theorem loosen (h : σ.Recorded t errand) (hl : Loosens t σ σ') : σ'.Recorded t errand where
  maps := hl.maps
  agrees s hs := (h.agrees s hs).loosen hl
  turn_le v s n hv := by
    rw [hl.turns_eq]
    exact h.turn_le v s n (hl.claimed_iff.mp hv)
  unique v w s n hv hw := h.unique v w s n (hl.claimed_iff.mp hv) (hl.claimed_iff.mp hw)
  copied c hc := by
    rw [hl.copies_eq] at hc
    obtain ⟨hs, v, hv, hr⟩ := h.copied c hc
    exact ⟨hs, v, hl.claimed_iff.mpr hv, hr⟩
  answered a ha := by
    rw [hl.answers_eq] at ha
    rw [hl.copies_eq, hl.turns_eq]
    exact h.answered a ha
  once := by rw [hl.answers_eq]; exact h.once

/-- A scan adds a copy of the latest request. -/
theorem scan (h : σ.Recorded t errand) {w : Worker} (hw : w.table = t) :
    (σ.after t errand (.scan w)).Recorded t errand := by
  obtain ⟨desk, copies, hafter, hleft, hcopies⟩ := after_scan errand h.maps hw
  rw [hafter]
  have hsub : ∀ c ∈ σ.copies, c ∈ copies := by
    rcases hcopies with rfl | ⟨s, -, -, rfl⟩
    · exact fun c hc => hc
    · exact fun c hc => List.mem_cons_of_mem _ hc
  refine
    { h with
      maps := hleft.maps h.maps
      agrees := fun s hs => (h.agrees s hs).frame (hleft.slot_at s) rfl
        (fun _ _ hv => hv) fun _ _ => Iff.rfl
      answered := fun a ha => ⟨hsub _ (h.answered a ha).1, (h.answered a ha).2⟩
      copied := fun c hc => ?_ }
  rcases hcopies with rfl | ⟨s, hs, hdone, rfl⟩
  · exact h.copied c hc
  · rcases List.mem_cons.mp hc with rfl | hold
    · have hagrees := h.agrees s hs
      obtain ⟨v, hv, hcarries⟩ := hagrees.latest (hagrees.turns_pos hdone)
      exact ⟨hs, v, hv, hagrees.request_eq hcarries⟩
    · exact h.copied c hold

/-- An answer that is taken is the first for the latest claim. -/
theorem publish_taken (h : σ.Recorded t errand) {w : Worker} (hw : w.table = t) {copy : Copy}
    (hcopy : copy ∈ σ.copies) (rejection : Option String)
    (hgen : (σ.slot t copy.slot).generation = copy.request.generation)
    (hdone : (σ.slot t copy.slot).done = false) :
    (σ.after t errand (.publish w copy rejection)).Recorded t errand := by
  obtain ⟨hs, v, hv, hr⟩ := h.copied copy hcopy
  have hagrees := h.agrees copy.slot hs
  obtain ⟨desk, hafter, hleft⟩ :=
    after_publish_taken errand h.maps hw hs rejection hgen hdone
  rw [hafter]
  have hturn : UInt32.ofNat copy.turn = UInt32.ofNat (σ.turns copy.slot) := by
    rw [← hagrees.generation, hgen, hr]
    rfl
  refine
    { h with
      maps := hleft.maps h.maps
      agrees := fun s hs => ?agrees
      answered := fun a ha => ?answered
      once := List.nodup_cons.mpr ⟨fun hmem => ?once, h.once⟩ }
  case agrees =>
    by_cases heq : s = copy.slot
    · subst heq
      exact hagrees.answer hdone rfl hleft.slot_self rfl rfl List.mem_cons_self
    · refine (h.agrees s hs).frame (hleft.slot_of_ne heq) rfl (fun _ _ hv => hv) fun a ha => ?_
      have hne : a ≠ ⟨⟨w, copy, rejection⟩, σ.turns copy.slot⟩ := by
        rintro rfl
        exact heq ha.symm
      rw [List.mem_cons, or_iff_right hne]
  case answered =>
    rcases List.mem_cons.mp ha with rfl | hold
    · exact ⟨hcopy, (h.turn_le v _ _ hv).2, Nat.le_refl _, hturn⟩
    · exact h.answered a hold
  case once =>
    obtain ⟨a, ha, heq⟩ := List.mem_map.mp hmem
    obtain ⟨hslot, hturn⟩ := Prod.mk.inj heq
    exact hagrees.pending hdone a ha hslot hturn

/-- An answer is taken for the latest claim only, and only once. -/
theorem publish (h : σ.Recorded t errand) {w : Worker} (hw : w.table = t) {copy : Copy}
    (hcopy : copy ∈ σ.copies) (rejection : Option String) :
    (σ.after t errand (.publish w copy rejection)).Recorded t errand := by
  by_cases htaken : (σ.slot t copy.slot).generation = copy.request.generation ∧
      (σ.slot t copy.slot).done = false
  · exact h.publish_taken hw hcopy rejection htaken.1 htaken.2
  · obtain ⟨hs, -⟩ := h.copied copy hcopy
    obtain ⟨desk, hafter, hleft⟩ := after_publish_stale errand h.maps hw hs rejection htaken
    rw [hafter]
    exact h.loosen (loosens_of_rewrites h.maps hleft (fun _ => .refl _) fun _ => rfl)

/-- A claim that is granted gets a turn that no other claim has had. -/
theorem claim_granted (h : σ.Recorded t errand) {v : Nat} (hv : σ.phase v = .arriving)
    (hclaimable : σ.Claimable t ((errand v).slot t)) :
    (σ.after t errand (.claim v)).Recorded t errand := by
  obtain ⟨desk, -, hafter, hleft⟩ := after_claim_granted h.maps v hclaimable
  rw [hafter]
  generalize hs₀ : (errand v).slot t = s₀ at *
  have hcases {u s n : Nat} : (σ.granted v s₀ desk).Claimed t errand u s n ↔ _ :=
    claimed_granted_iff σ desk hs₀ hv
  refine
    { maps := hleft.maps h.maps
      agrees := fun s hs => ?agrees
      turn_le := fun u s n hu => ?turn_le
      unique := fun u w s n hu hw => ?unique
      copied := fun c hc => ?copied
      answered := fun a ha => ?answered
      once := h.once }
  case agrees =>
    by_cases heq : s = s₀
    · subst heq
      refine (h.agrees s hs).claim (v := v) hleft.slot_self (granted_turns_self _ _ _ _)
        (hcases.mpr (.inl ⟨rfl, rfl, rfl⟩)) ?_
      intro a ha hslot
      exact hslot ▸ (h.answered a ha).2.2.1
    · exact (h.agrees s hs).frame (hleft.slot_of_ne heq) (granted_turns_of_ne _ _ _ _ heq)
        (fun u n hu => hcases.mpr (.inr hu)) fun _ _ => Iff.rfl
  case turn_le =>
    have hgrows := le_granted_turns σ v s₀ desk s
    rcases hcases.mp hu with ⟨-, rfl, rfl⟩ | hold
    · rw [granted_turns_self]
      omega
    · have hle := h.turn_le u s n hold
      omega
  case unique =>
    -- The new turn is higher than every turn before.
    rcases hcases.mp hu with ⟨rfl, rfl, rfl⟩ | holdu
    · rcases hcases.mp hw with ⟨rfl, -, -⟩ | holdw
      · rfl
      · have hle := h.turn_le w _ _ holdw
        omega
    · rcases hcases.mp hw with ⟨rfl, rfl, rfl⟩ | holdw
      · have hle := h.turn_le u _ _ holdu
        omega
      · exact h.unique u w s n holdu holdw
  case copied =>
    obtain ⟨hs, u, hu, hr⟩ := h.copied c hc
    exact ⟨hs, u, hcases.mpr (.inr hu), hr⟩
  case answered =>
    obtain ⟨hcopy, hle, hturns, hnumber⟩ := h.answered a ha
    exact ⟨hcopy, hle, Nat.le_trans hturns (le_granted_turns σ v s₀ desk _), hnumber⟩

theorem claim (h : σ.Recorded t errand) {v : Nat} (hv : σ.phase v = .arriving) :
    (σ.after t errand (.claim v)).Recorded t errand := by
  by_cases hclaimable : σ.Claimable t ((errand v).slot t)
  · exact h.claim_granted hv hclaimable
  · exact h.loosen (loosens_claim h.maps hclaimable)

/-- Every move that anybody is able to make keeps the record in agreement. -/
theorem after (h : σ.Recorded t errand) {m : Move} (hm : σ.Permits t m) :
    (σ.after t errand m).Recorded t errand := by
  cases m with
  | claim v => exact h.claim hm
  | collect v => exact h.loosen (loosens_collect h.maps v)
  | abandon v => exact h.loosen (loosens_abandon h.maps v)
  | turnAway v => exact h.loosen (loosens_turnAway h.maps hm)
  | scan w => exact h.scan hm
  | decide settings w copy => exact h.loosen (loosens_decide h.maps hm.1 hm.2.2)
  | publish w copy rejection => exact h.publish hm.1 hm.2 rejection
  | die pid => exact h.loosen (loosens_die h.maps pid)
  | elsewhere desk => exact h.loosen (loosens_elsewhere h.maps hm)

end Recorded

/-- The record agrees with the table at every moment, whatever the rule. -/
theorem Reaches.recorded {rule : Traffic → Move → Prop} (h : Reaches t errand rule σ) :
    σ.Recorded t errand := by
  induction h with
  | start hfresh => exact .start hfresh
  | move m _ hm _ ih => exact ih.after hm

end Admission.Traffic
