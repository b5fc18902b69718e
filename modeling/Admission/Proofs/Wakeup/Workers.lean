import Admission.Proofs.Wakeup.Steps

set_option autoImplicit false

/-!
# Workers keep a vigil sound

A scan in vain has seen all slots of the worker answered.  A worker whose verdict was
taken owes two rings, and one whose verdict came too late owes none.
-/

namespace Admission

/-- A scan that finds nothing finds every slot of the worker answered. -/
theorem Shift.done_of_found_eq_none {w : Worker} {slots : Nat → Slot}
    (h : Shift.found w slots = none) {s : Nat} (hs : s ∈ w.slots) : (slots s).done = true := by
  have hnone := List.find?_eq_none.mp (Option.map_eq_none_iff.mp h) s (Worker.mem_scanOrder.mpr hs)
  simpa using hnone

namespace Vigil

variable {t : SlotTable} {errand : Nat → Errand} {ω : Vigil}

namespace Sound

variable (h : ω.Sound t errand)

include h

theorem scan {w : Worker} (ha : ω.Permits t errand (.scan w)) :
    (ω.after t errand (.scan w)).Sound t errand := by
  obtain ⟨hw, hi, n, hp⟩ := ha
  subst hw
  have hm := h.maps
  have hnote : (ω.station (.worker w.index)).note? = some n := by
    rw [hp]
    rfl
  have howes := Station.ne_owes hnote
  -- There are at least as many slots as workers.
  have hslots : w.slots ≠ [] := by
    have hmem : w.index ∈ w.slots :=
      Layout.mem_slotsOfWorker.mpr ⟨Nat.lt_of_lt_of_le hi hm.valid.2.1, Nat.le_refl _, by simp⟩
    exact List.ne_nil_of_mem hmem
  obtain ⟨s', hrun, -, hleft⟩ := Shift.takePending_spec (s := ⟨w, ω.traffic.desk⟩) hm hslots
  have hbell := Shift.bell_takePending (s := ⟨w, ω.traffic.desk⟩) hm
  rw [hrun] at hbell
  cases hfound : Shift.found w (ω.slot w.table) with
  | none =>
    have hnone : Shift.takePending ⟨w, ω.traffic.desk⟩ = (.done none, s') :=
      hrun.trans (by rw [← hfound]; rfl)
    have hafter : ω.traffic.after w.table errand (.scan w) =
        { ω.traffic with desk := s'.desk } := by
      simp only [Traffic.after, hnone]
    have hsection : ω.Section w.table errand (.worker w.index) (ω.slot w.table)
        (ω.traffic.after w.table errand (.scan w)) :=
      h.section_move rfl trivial hafter hleft hbell (fun _ => id) fun _ _ => rfl
    simp only [after, hnone, hp, Station.look]
    refine h.rest hsection howes ((h.good _).look hp hsection (by rw [hafter]) ?_)
    obtain ⟨-, hwork⟩ := ((h.good _).note n hnote).1
    rw [hwork]
    intro s hs
    rw [hsection.slot_eq]
    exact Shift.done_of_found_eq_none hfound hs
  | some pending =>
    obtain ⟨s, request⟩ := pending
    have hsome : Shift.takePending ⟨w, ω.traffic.desk⟩ = (.done (some (s, request)), s') :=
      hrun.trans (by rw [← hfound]; rfl)
    have hafter : ω.traffic.after w.table errand (.scan w) =
        { ω.traffic with
          desk := s'.desk
          copies := ⟨s, ω.traffic.turns s, request⟩ :: ω.traffic.copies } := by
      simp only [Traffic.after, hsome]
    have hsection : ω.Section w.table errand (.worker w.index) (ω.slot w.table)
        (ω.traffic.after w.table errand (.scan w)) :=
      h.section_move rfl trivial hafter hleft hbell (fun _ => List.mem_cons_of_mem _)
        fun _ _ => rfl
    simp only [after, hsome]
    refine h.rest hsection howes (.of_busy station_turn_self ?_)
    show _ ∈ (ω.traffic.after w.table errand (.scan w)).copies
    rw [hafter]
    exact List.mem_cons_self

/-- The section of a publication that is taken. -/
theorem putIn_taken {w : Worker} (hw : w.table = t) {copy : Copy}
    (hs : copy.slot < t.layout.slots) (rejection : Option String)
    (hgen : (ω.slot t copy.slot).generation = copy.request.generation)
    (hdone : (ω.slot t copy.slot).done = false) :
    ∃ desk : Desk,
      Shift.putIn w copy.slot copy.request rejection ⟨w, ω.traffic.desk⟩ =
        (.done true, ⟨w, desk⟩) ∧
      Host.Rewrites t
        (Function.update (ω.slot t) copy.slot
          { (ω.slot t copy.slot).setResult rejection with done := true })
        ω.traffic.desk.host desk.host ∧
      ∀ b : Bell, desk.host.bell t b = ω.bell t b := by
  subst hw
  have hm := h.maps
  have hbell := Shift.bell_putIn (s := ⟨w, ω.traffic.desk⟩) hm copy.slot copy.request rejection
  obtain ⟨desk, hrun, hleft⟩ :=
    Shift.putIn_spec (s := ⟨w, ω.traffic.desk⟩) hm hs copy.request rejection
  have hanswer : (ω.traffic.desk.host.slot w.table copy.slot).answer? copy.request rejection =
      some { (ω.slot w.table copy.slot).setResult rejection with done := true } :=
    Slot.answer?_eq_some_iff.mpr ⟨hgen, hdone, rfl⟩
  rw [hrun] at hbell
  rw [hanswer] at hrun hleft
  exact ⟨desk, hrun, hleft, hbell⟩

/-- The section of one that comes too late. -/
theorem putIn_stale {w : Worker} (hw : w.table = t) {copy : Copy}
    (hs : copy.slot < t.layout.slots) (rejection : Option String)
    (hstale : ¬ ((ω.slot t copy.slot).generation = copy.request.generation ∧
      (ω.slot t copy.slot).done = false)) :
    ∃ desk : Desk,
      Shift.putIn w copy.slot copy.request rejection ⟨w, ω.traffic.desk⟩ =
        (.done false, ⟨w, desk⟩) ∧
      Host.Rewrites t (ω.slot t) ω.traffic.desk.host desk.host ∧
      ∀ b : Bell, desk.host.bell t b = ω.bell t b := by
  subst hw
  have hm := h.maps
  have hbell := Shift.bell_putIn (s := ⟨w, ω.traffic.desk⟩) hm copy.slot copy.request rejection
  obtain ⟨desk, hrun, hleft⟩ :=
    Shift.putIn_spec (s := ⟨w, ω.traffic.desk⟩) hm hs copy.request rejection
  have hanswer : (ω.traffic.desk.host.slot w.table copy.slot).answer? copy.request rejection =
      none := by
    refine Option.eq_none_iff_forall_ne_some.mpr fun new hnew => hstale ?_
    obtain ⟨hgen, hdone, -⟩ := Slot.answer?_eq_some_iff.mp hnew
    exact ⟨hgen, hdone⟩
  rw [hrun] at hbell
  rw [hanswer] at hrun hleft
  rw [Option.getD_none, Function.update_eq_self] at hleft
  exact ⟨desk, hrun, hleft, hbell⟩

theorem publish {w : Worker} {copy : Copy} {rejection : Option String}
    (ha : ω.Permits t errand (.publish w copy rejection)) :
    (ω.after t errand (.publish w copy rejection)).Sound t errand := by
  obtain ⟨hw, hp⟩ := ha
  have hm := h.maps
  have hcopy := (h.good _).busy copy hp
  have hs := (h.reaches.recorded.copied copy hcopy).1
  have howes : ∀ bells, ω.station (.worker w.index) ≠ .owes bells := by
    rw [hp]
    nofun
  by_cases htaken : (ω.traffic.slot t copy.slot).generation = copy.request.generation ∧
      (ω.traffic.slot t copy.slot).done = false
  · obtain ⟨desk, hrun, hleft, hbell⟩ := h.putIn_taken hw hs rejection htaken.1 htaken.2
    obtain ⟨desk', hafter, hstep⟩ :=
      Traffic.after_publish_taken errand hm hw hs rejection htaken.1 htaken.2
    have hsection := h.section_of (p := .worker w.index) (m := .publish w copy rejection)
      ⟨hw, hcopy⟩ trivial (hafter ▸ hstep) hleft hbell (hafter ▸ rfl) fun _ _ => hafter ▸ rfl
    simp only [after, hrun]
    exact h.answer hs hsection howes rfl
  · obtain ⟨desk, hrun, -, hbell⟩ := h.putIn_stale hw hs rejection htaken
    obtain ⟨desk', hafter, hleft⟩ := Traffic.after_publish_stale errand hm hw hs rejection htaken
    -- It logs that it comes too late, which rings nowhere.
    have hlog : ∀ b : Bell, desk'.host.bell t b = ω.bell t b := by
      intro b
      have hdesk : desk' =
          (Shift.publish copy.slot copy.request rejection ⟨w, ω.traffic.desk⟩).2.desk :=
        (congrArg Traffic.desk hafter).symm
      rw [hdesk, Shift.publish_eq_putIn, Attempt.bind_of_done hrun]
      exact hbell b
    have hsection : ω.Section t errand (.worker w.index) (ω.slot t)
        (ω.traffic.after t errand (.publish w copy rejection)) :=
      h.section_move ⟨hw, hcopy⟩ trivial hafter hleft hlog (fun _ => id) fun _ _ => rfl
    simp only [after, hrun]
    exact h.rest hsection howes (.awake station_turn_self)

end Sound

end Vigil

end Admission
