import Admission.Proofs.Traffic.Basic

set_option autoImplicit false

/-!
# What a move changes

Most moves do no more to a table than to raise the flag of a slot that says nobody
holds it; those are `Loosens`.  The others are a claim that is granted, a scan that
finds something, and a publication that is taken.  Each is described here once, by
the slots it leaves and the record it leaves.
-/

namespace Admission

/-- `new` is `old`, or `old` given back. -/
def Slot.Loosened (old new : Slot) : Prop :=
  new = old ∨ new = { old with available := true }

namespace Slot.Loosened

theorem refl (s : Slot) : Loosened s s :=
  .inl rfl

theorem reclaim (s : Slot) (ps : Processes) : Loosened s (s.reclaim ps) := by
  unfold Slot.reclaim
  split
  · exact .inr rfl
  · exact .inl rfl

theorem collect (s : Slot) : Loosened s s.collect.1 := by
  unfold Slot.collect
  split
  · exact .inr rfl
  · exact .inl rfl

theorem abandon (s : Slot) (pid : Pid) : Loosened s (s.abandon pid) := by
  unfold Slot.abandon
  split
  · exact .inr rfl
  · exact .inl rfl

/-- Rewriting one slot loosens all that are rewritten. -/
theorem update {slots : Nat → Slot} {index : Nat} {new : Slot} (h : Loosened (slots index) new)
    (other : Nat) : Loosened (slots other) (Function.update slots index new other) := by
  rw [Function.update_apply]
  split
  · next heq => rw [heq]; exact h
  · exact refl _

variable {old new : Slot}

theorem generation_eq (h : Loosened old new) : new.generation = old.generation := by
  rcases h with rfl | rfl <;> rfl

theorem done_eq (h : Loosened old new) : new.done = old.done := by
  rcases h with rfl | rfl <;> rfl

theorem owner_eq (h : Loosened old new) : new.owner = old.owner := by
  rcases h with rfl | rfl <;> rfl

theorem result?_eq (h : Loosened old new) : new.result? = old.result? := by
  rcases h with rfl | rfl <;> rfl

theorem isIdle (h : Loosened old new) (hold : old.isIdle = true) : new.isIdle = true := by
  rcases h with rfl | rfl
  · exact hold
  · exact isIdle_iff.mpr ⟨rfl, (isIdle_iff.mp hold).2⟩

theorem eq_of_held (h : Loosened old new) (hnew : new.available = false) :
    new = old := by
  rcases h with rfl | rfl
  · rfl
  · cases hnew

theorem carries_iff (h : Loosened old new) {e : Errand} : new.Carries e ↔ old.Carries e := by
  rcases h with rfl | rfl
  · rfl
  · constructor
    · rintro ⟨howner, hconnection, hstatus⟩
      exact ⟨howner, hconnection, hstatus⟩
    · rintro ⟨howner, hconnection, hstatus⟩
      exact ⟨howner, hconnection, hstatus⟩

end Slot.Loosened

namespace Traffic

variable (t : SlotTable) (errand : Nat → Errand)

/-- From `before` to `after` slots were given back and visits came to an end, at most. -/
structure Loosens (before after : Traffic) : Prop where
  maps : after.desk.host.Maps t
  slot : ∀ s : Nat, (before.slot t s).Loosened (after.slot t s)
  turns_eq : after.turns = before.turns
  turn?_eq : ∀ v : Nat, (after.phase v).turn? = (before.phase v).turn?
  copies_eq : after.copies = before.copies
  answers_eq : after.answers = before.answers

/-- A claim of the slot is granted: the last request was answered, and nobody who
runs holds the slot. -/
def Claimable (σ : Traffic) (slot : Nat) : Prop :=
  (σ.slot t slot).done = true ∧
    ((σ.slot t slot).available = true ∨ σ.processes.isAlive (σ.slot t slot).owner = false)

instance (σ : Traffic) (slot : Nat) : Decidable (σ.Claimable t slot) :=
  inferInstanceAs (Decidable (_ ∧ _))

/-- The traffic once a visit was granted a claim of a slot. -/
def granted (σ : Traffic) (v s : Nat) (desk : Desk) : Traffic :=
  { σ with
    desk
    turns := Function.update σ.turns s (σ.turns s + 1)
    phase := Function.update σ.phase v (.waiting (σ.turns s + 1)) }

variable {t errand} {σ : Traffic}

/-- Running is a matter of the processes alone. -/
theorem alive_iff {σ' : Traffic} {slots : Nat → Slot}
    (hleft : Host.Rewrites t slots σ.desk.host σ'.desk.host) {v : Nat} :
    σ'.Alive errand v ↔ σ.Alive errand v := by
  unfold Alive processes
  rw [hleft.processes_eq]

section Granted

variable (σ) (v s : Nat) (desk : Desk)

@[simp] theorem granted_turns_self : (σ.granted v s desk).turns s = σ.turns s + 1 :=
  Function.update_self _ _ _

theorem granted_turns_of_ne {other : Nat} (h : other ≠ s) :
    (σ.granted v s desk).turns other = σ.turns other :=
  Function.update_of_ne h _ _

theorem le_granted_turns (other : Nat) : σ.turns other ≤ (σ.granted v s desk).turns other := by
  by_cases h : other = s
  · rw [h, granted_turns_self]
    omega
  · exact Nat.le_of_eq (granted_turns_of_ne _ _ _ _ h).symm

@[simp] theorem granted_phase_self :
    (σ.granted v s desk).phase v = .waiting (σ.turns s + 1) :=
  Function.update_self _ _ _

theorem granted_phase_of_ne {other : Nat} (h : other ≠ v) :
    (σ.granted v s desk).phase other = σ.phase other :=
  Function.update_of_ne h _ _

/-- Who claimed what, once a claim was granted. -/
theorem claimed_granted_iff {v s : Nat} (hslot : (errand v).slot t = s)
    (hv : σ.phase v = .arriving) {u other n : Nat} :
    (σ.granted v s desk).Claimed t errand u other n ↔
      (u = v ∧ other = s ∧ n = σ.turns s + 1) ∨ σ.Claimed t errand u other n := by
  by_cases hu : u = v
  · subst hu
    simp [Claimed, hslot, hv, Phase.turn?, eq_comm]
  · simp [Claimed, hu, granted_phase_of_ne]

end Granted

section Client

variable (hm : σ.desk.host.Maps t) (v : Nat)

include hm

variable (errand) in
/-- The claim of an errand, in terms of the traffic. -/
theorem claim_yields :
    Desk.Yields t (((errand v).client t).claim (errand v).connection (errand v).status) σ.desk
      (if ((σ.slot t ((errand v).slot t)).claim σ.processes (errand v).pid
        (errand v).connection (errand v).status).2 then some ((errand v).ticket t) else none)
      (Function.update (σ.slot t) ((errand v).slot t)
        ((σ.slot t ((errand v).slot t)).claim σ.processes (errand v).pid
          (errand v).connection (errand v).status).1) :=
  ((errand v).client t).claim_spec _ _ hm ((errand v).slot_lt hm.valid)

variable (errand) in
theorem collect_yields :
    Desk.Yields t (((errand v).client t).collect ((errand v).ticket t)) σ.desk
      ((σ.slot t ((errand v).slot t)).collect.2.map .ofRejection)
      (Function.update (σ.slot t) ((errand v).slot t)
        (σ.slot t ((errand v).slot t)).collect.1) :=
  ((errand v).client t).collect_spec _ hm ((errand v).slot_lt hm.valid)

variable (errand) in
theorem abandon_yields :
    Desk.Yields t (((errand v).client t).abandon ((errand v).ticket t)) σ.desk ()
      (Function.update (σ.slot t) ((errand v).slot t)
        ((σ.slot t ((errand v).slot t)).abandon (errand v).pid)) :=
  ((errand v).client t).abandon_spec _ hm ((errand v).slot_lt hm.valid)

/-- A claim that is granted puts the request in and counts a turn. -/
theorem after_claim_granted (h : σ.Claimable t ((errand v).slot t)) :
    ∃ desk : Desk,
      ((errand v).client t).claim (errand v).connection (errand v).status σ.desk =
        (.done (some ((errand v).ticket t)), desk) ∧
      σ.after t errand (.claim v) = σ.granted v ((errand v).slot t) desk ∧
      Host.Rewrites t
        (Function.update (σ.slot t) ((errand v).slot t)
          (((σ.slot t ((errand v).slot t)).reclaim σ.processes).publishRequest
            (errand v).pid (errand v).connection (errand v).status))
        σ.desk.host desk.host := by
  have hgranted : ((σ.slot t ((errand v).slot t)).claim σ.processes (errand v).pid
      (errand v).connection (errand v).status).2 = true :=
    Slot.claim_granted_iff.mpr h
  obtain ⟨desk, hrun, hleft⟩ := claim_yields errand hm v
  rw [if_pos hgranted] at hrun
  rw [Slot.claim_of_granted hgranted] at hleft
  refine ⟨desk, hrun, ?_, hleft⟩
  simp only [after, hrun]
  rfl

/-- A claim that is refused takes the slot from a holder that is gone, at most. -/
theorem after_claim_refused (h : ¬ σ.Claimable t ((errand v).slot t)) :
    ∃ desk : Desk,
      ((errand v).client t).claim (errand v).connection (errand v).status σ.desk =
        (.done none, desk) ∧
      σ.after t errand (.claim v) = { σ with desk } ∧
      Host.Rewrites t
        (Function.update (σ.slot t) ((errand v).slot t)
          ((σ.slot t ((errand v).slot t)).reclaim σ.processes))
        σ.desk.host desk.host := by
  have hrefused : ((σ.slot t ((errand v).slot t)).claim σ.processes (errand v).pid
      (errand v).connection (errand v).status).2 = false :=
    Bool.eq_false_iff.mpr fun hgranted => h (Slot.claim_granted_iff.mp hgranted)
  obtain ⟨desk, hrun, hleft⟩ := claim_yields errand hm v
  rw [if_neg (Bool.eq_false_iff.mp hrefused)] at hrun
  rw [Slot.claim_of_refused hrefused] at hleft
  exact ⟨desk, hrun, by simp only [after, hrun], hleft⟩

/-- A look for the verdict reads it off an answered slot and gives the slot back. -/
theorem after_collect_done (h : (σ.slot t ((errand v).slot t)).done = true) :
    ∃ desk : Desk,
      ((errand v).client t).collect ((errand v).ticket t) σ.desk =
        (.done (some (.ofRejection (σ.slot t ((errand v).slot t)).result?)), desk) ∧
      σ.after t errand (.collect v) =
        { σ with
          desk
          phase := Function.update σ.phase v
            ((σ.phase v).read (.ofRejection (σ.slot t ((errand v).slot t)).result?)) } ∧
      Host.Rewrites t
        (Function.update (σ.slot t) ((errand v).slot t)
          { σ.slot t ((errand v).slot t) with available := true })
        σ.desk.host desk.host := by
  obtain ⟨desk, hrun, hleft⟩ := collect_yields errand hm v
  rw [Slot.collect_of_done h] at hrun hleft
  exact ⟨desk, hrun, by simp only [after, hrun, Option.map_some], hleft⟩

/-- A look for a verdict that is not there yet changes nothing. -/
theorem after_collect_pending (h : (σ.slot t ((errand v).slot t)).done = false) :
    ∃ desk : Desk,
      ((errand v).client t).collect ((errand v).ticket t) σ.desk =
        (.done none, desk) ∧
      σ.after t errand (.collect v) = { σ with desk } ∧
      Host.Rewrites t (σ.slot t) σ.desk.host desk.host := by
  obtain ⟨desk, hrun, hleft⟩ := collect_yields errand hm v
  rw [Slot.collect_of_pending h] at hrun hleft
  rw [Function.update_eq_self] at hleft
  exact ⟨desk, hrun, by simp only [after, hrun, Option.map_none], hleft⟩

variable (errand) in
/-- Giving up gives the slot back if the process owns it. -/
theorem after_abandon :
    ∃ desk : Desk,
      ((errand v).client t).abandon ((errand v).ticket t) σ.desk = (.done (), desk) ∧
      σ.after t errand (.abandon v) =
        { σ with desk, phase := Function.update σ.phase v (σ.phase v).giveUp } ∧
      Host.Rewrites t
        (Function.update (σ.slot t) ((errand v).slot t)
          ((σ.slot t ((errand v).slot t)).abandon (errand v).pid))
        σ.desk.host desk.host := by
  obtain ⟨desk, hrun, hleft⟩ := abandon_yields errand hm v
  exact ⟨desk, hrun, by simp only [after, hrun], hleft⟩

variable (errand) in
theorem after_turnAway :
    ∃ desk : Desk,
      ((errand v).client t).reportNoSlot σ.desk = (.done (.abort Client.claimTimeout), desk) ∧
      σ.after t errand (.turnAway v) =
        { σ with desk, phase := Function.update σ.phase v .turnedAway } ∧
      Host.Rewrites t (σ.slot t) σ.desk.host desk.host := by
  obtain ⟨desk, hrun, hleft⟩ := ((errand v).client t).quiet_reportNoSlot σ.desk hm
  exact ⟨desk, hrun, by simp only [after, hrun], hleft⟩

end Client

section Worker

variable (hm : σ.desk.host.Maps t) {w : Worker} (hw : w.table = t)

include hm hw

variable (errand) in
/-- A scan changes no slot, and what it copies is pending. -/
theorem after_scan :
    ∃ (desk : Desk) (copies : List Copy),
      σ.after t errand (.scan w) = { σ with desk, copies } ∧
      Host.Rewrites t (σ.slot t) σ.desk.host desk.host ∧
      (copies = σ.copies ∨ ∃ s : Nat, s < t.layout.slots ∧ (σ.slot t s).done = false ∧
        copies = ⟨s, σ.turns s, (σ.slot t s).request⟩ :: σ.copies) := by
  subst hw
  by_cases hslots : w.slots = []
  · have hrun := Shift.takePending_without_slots (s := ⟨w, σ.desk⟩) hslots
    exact ⟨σ.desk, σ.copies, by simp only [after, hrun], .refl _ _, .inl rfl⟩
  · obtain ⟨s', hrun, -, hleft⟩ := Shift.takePending_spec (s := ⟨w, σ.desk⟩) hm hslots
    cases hfound : Shift.found w (σ.desk.host.slot w.table) with
    | none =>
      rw [hfound] at hrun
      exact ⟨s'.desk, σ.copies, by simp only [after, hrun], hleft, .inl rfl⟩
    | some pending =>
      obtain ⟨s, r⟩ := pending
      rw [hfound] at hrun
      obtain ⟨hs, hdone, hr⟩ := Shift.of_found_eq_some hfound
      subst hr
      exact ⟨s'.desk, ⟨s, σ.turns s, (σ.slot w.table s).request⟩ :: σ.copies,
        by simp only [after, hrun]; rfl, hleft, .inr ⟨s, hs, hdone, rfl⟩⟩

variable (errand) in
omit hm in
/-- What a worker decides is recorded, if it comes to a decision at all. -/
theorem after_decide (settings : ClientAuthSettings) (copy : Copy) :
    ∃ decisions : List Decision,
      σ.after t errand (.decide settings w copy) =
        { σ with
          desk := (Shift.decide settings copy.request ⟨w, σ.desk⟩).2.desk
          decisions } ∧
      (decisions = σ.decisions ∨ ∃ δ : Decision, δ.copy = copy ∧ δ.MadeAt t σ.desk ∧
        decisions = δ :: σ.decisions) := by
  rcases hrun : Shift.decide settings copy.request ⟨w, σ.desk⟩ with ⟨ending, shift⟩
  cases ending with
  | done reason =>
    refine ⟨_, by simp only [after, hrun],
      .inr ⟨⟨shift.worker, copy, reason.map Text.singleLine⟩, rfl, ?_, rfl⟩⟩
    exact ⟨settings, w, reason, shift.desk, hw, hrun, rfl⟩
  | failed e => exact ⟨σ.decisions, by simp only [after, hrun], .inl rfl⟩
  | unwound p => exact ⟨σ.decisions, by simp only [after, hrun], .inl rfl⟩

variable (errand) in
/-- A publication that is taken answers the slot. -/
theorem after_publish_taken {copy : Copy} (hs : copy.slot < t.layout.slots)
    (rejection : Option String)
    (hgen : (σ.slot t copy.slot).generation = copy.request.generation)
    (hdone : (σ.slot t copy.slot).done = false) :
    ∃ desk : Desk,
      σ.after t errand (.publish w copy rejection) =
        { σ with
          desk
          answers := ⟨⟨w, copy, rejection⟩, σ.turns copy.slot⟩ :: σ.answers } ∧
      Host.Rewrites t
        (Function.update (σ.slot t) copy.slot
          { (σ.slot t copy.slot).setResult rejection with done := true })
        σ.desk.host desk.host := by
  subst hw
  have htaken : (σ.slot w.table copy.slot).answer? copy.request rejection =
      some { (σ.slot w.table copy.slot).setResult rejection with done := true } :=
    Slot.answer?_eq_some_iff.mpr ⟨hgen, hdone, rfl⟩
  obtain ⟨s', hrun, -, hleft⟩ :=
    Shift.publish_spec (s := ⟨w, σ.desk⟩) hm hs copy.request rejection
  refine ⟨s'.desk, by simp only [after, hrun, htaken, Option.isSome_some, if_true], ?_⟩
  have htaken' : (σ.desk.host.slot w.table copy.slot).answer? copy.request rejection = _ := htaken
  simp only [htaken', Option.getD_some] at hleft
  exact hleft

variable (errand) in
/-- A publication that is stale changes nothing. -/
theorem after_publish_stale {copy : Copy} (hs : copy.slot < t.layout.slots)
    (rejection : Option String)
    (hstale : ¬ ((σ.slot t copy.slot).generation = copy.request.generation ∧
      (σ.slot t copy.slot).done = false)) :
    ∃ desk : Desk,
      σ.after t errand (.publish w copy rejection) = { σ with desk } ∧
      Host.Rewrites t (σ.slot t) σ.desk.host desk.host := by
  subst hw
  have hrefused : (σ.slot w.table copy.slot).answer? copy.request rejection = none := by
    by_contra htaken
    obtain ⟨s', hs'⟩ := Option.ne_none_iff_exists'.mp htaken
    obtain ⟨hgen, hdone, -⟩ := Slot.answer?_eq_some_iff.mp hs'
    exact hstale ⟨hgen, hdone⟩
  obtain ⟨s', hrun, -, hleft⟩ :=
    Shift.publish_spec (s := ⟨w, σ.desk⟩) hm hs copy.request rejection
  refine ⟨s'.desk, by simp only [after, hrun, hrefused]; rfl, ?_⟩
  have hrefused' : (σ.desk.host.slot w.table copy.slot).answer? copy.request rejection = none :=
    hrefused
  rw [hrefused', Option.getD_none, Function.update_eq_self] at hleft
  exact hleft

end Worker

/-! ## Moves that give slots back at most -/

theorem turn?_update {phase : Nat → Phase} {v : Nat} {p : Phase}
    (h : p.turn? = (phase v).turn?) (u : Nat) :
    (Function.update phase v p u).turn? = (phase u).turn? := by
  rw [Function.update_apply]
  split
  · next heq => rw [heq, h]
  · rfl

theorem loosens_of_rewrites (hm : σ.desk.host.Maps t) {desk : Desk} {phase : Nat → Phase}
    {decisions : List Decision} {slots : Nat → Slot}
    (hleft : Host.Rewrites t slots σ.desk.host desk.host)
    (hslots : ∀ s : Nat, (σ.slot t s).Loosened (slots s))
    (hphase : ∀ v : Nat, (phase v).turn? = (σ.phase v).turn?) :
    Loosens t σ { σ with desk, phase, decisions } where
  maps := hleft.maps hm
  slot s := by
    have h := hslots s
    rwa [← hleft.slot_eq] at h
  turns_eq := rfl
  turn?_eq := hphase
  copies_eq := rfl
  answers_eq := rfl

section Loosens

variable (hm : σ.desk.host.Maps t)

include hm

theorem loosens_claim {v : Nat} (h : ¬ σ.Claimable t ((errand v).slot t)) :
    Loosens t σ (σ.after t errand (.claim v)) := by
  obtain ⟨desk, -, hafter, hleft⟩ := after_claim_refused hm v h
  rw [hafter]
  exact loosens_of_rewrites hm hleft (.update (.reclaim _ _)) fun _ => rfl

theorem loosens_collect (v : Nat) : Loosens t σ (σ.after t errand (.collect v)) := by
  cases hdone : (σ.slot t ((errand v).slot t)).done with
  | true =>
    obtain ⟨desk, -, hafter, hleft⟩ := after_collect_done hm v hdone
    rw [hafter]
    exact loosens_of_rewrites hm hleft (.update (.inr rfl)) (turn?_update (Phase.turn?_read _ _))
  | false =>
    obtain ⟨desk, -, hafter, hleft⟩ := after_collect_pending hm v hdone
    rw [hafter]
    exact loosens_of_rewrites hm hleft (fun _ => .refl _) fun _ => rfl

theorem loosens_abandon (v : Nat) : Loosens t σ (σ.after t errand (.abandon v)) := by
  obtain ⟨desk, -, hafter, hleft⟩ := after_abandon errand hm v
  rw [hafter]
  exact loosens_of_rewrites hm hleft (.update (.abandon _ _)) (turn?_update (Phase.turn?_giveUp _))

theorem loosens_turnAway {v : Nat} (h : σ.phase v = .arriving) :
    Loosens t σ (σ.after t errand (.turnAway v)) := by
  obtain ⟨desk, -, hafter, hleft⟩ := after_turnAway errand hm v
  rw [hafter]
  exact loosens_of_rewrites hm hleft (fun _ => .refl _) (turn?_update (by rw [h]; rfl))

theorem loosens_decide {settings : ClientAuthSettings} {w : Worker} (hw : w.table = t)
    {copy : Copy} (hleft : Host.Rewrites t (σ.slot t) σ.desk.host
      (Shift.decide settings copy.request ⟨w, σ.desk⟩).2.desk.host) :
    Loosens t σ (σ.after t errand (.decide settings w copy)) := by
  obtain ⟨decisions, hafter, -⟩ := after_decide errand hw settings copy
  rw [hafter]
  exact loosens_of_rewrites hm hleft (fun _ => .refl _) fun _ => rfl

theorem loosens_elsewhere {desk : Desk}
    (hleft : Host.Rewrites t (σ.slot t) σ.desk.host desk.host) :
    Loosens t σ (σ.after t errand (.elsewhere desk)) :=
  loosens_of_rewrites hm hleft (fun _ => .refl _) fun _ => rfl

theorem loosens_die (pid : Pid) : Loosens t σ (σ.after t errand (.die pid)) :=
  ⟨⟨hm.mapped, hm.valid⟩, fun _ => .refl _, rfl, fun _ => rfl, rfl, rfl⟩

end Loosens

end Traffic

end Admission
