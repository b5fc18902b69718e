import Admission.Proofs.Wakeup.Clients
import Admission.Proofs.Wakeup.Workers

set_option autoImplicit false

/-!
# Parties that nobody disturbs

What a party does to the table in one act, and by the rings that it owes then, is what
its whole step does.
-/

namespace Admission

namespace Vigil

variable (t : SlotTable) (errand : Nat → Errand)

/-- Undisturbed, an act and the rings it leaves come to a whole step. -/
structure Whole (ω : Vigil) : Prop where
  claim : ∀ (v : Nat) (woken : Option Party), ω.Permits t errand (.claim v woken) →
    ((ω.after t errand (.claim v woken)).settled t errand (.client v)).traffic.desk =
      (((errand v).client t).claim (errand v).connection (errand v).status ω.traffic.desk).2
  collect : ∀ v : Nat, ω.Permits t errand (.collect v) →
    ((ω.after t errand (.collect v)).settled t errand (.client v)).traffic.desk =
      (((errand v).client t).collect ((errand v).ticket t) ω.traffic.desk).2
  abandon : ∀ v : Nat, ω.Permits t errand (.abandon v) →
    ((ω.after t errand (.abandon v)).settled t errand (.client v)).traffic.desk =
      (((errand v).client t).abandon ((errand v).ticket t) ω.traffic.desk).2
  turnAway : ∀ v : Nat, ω.Permits t errand (.turnAway v) →
    ((ω.after t errand (.turnAway v)).settled t errand (.client v)).traffic.desk =
      (((errand v).client t).reportNoSlot ω.traffic.desk).2
  scan : ∀ w : Worker, ω.Permits t errand (.scan w) →
    ((ω.after t errand (.scan w)).settled t errand (.worker w.index)).traffic.desk =
      (Shift.takePending ⟨w, ω.traffic.desk⟩).2.desk
  publish : ∀ (w : Worker) (copy : Copy) (rejection : Option String),
    ω.Permits t errand (.publish w copy rejection) →
    ((ω.after t errand (.publish w copy rejection)).settled t errand
        (.worker w.index)).traffic.desk =
      (Shift.publish copy.slot copy.request rejection ⟨w, ω.traffic.desk⟩).2.desk

variable {t errand} {ω : Vigil} {p : Party} {station : Station} {σ : Traffic}

theorem desk_settled_owes {bells : List Bell} :
    ((ω.turn p (.owes bells) σ).settled t errand p).traffic.desk =
      bells.foldl (fun d b => d.rung t b) σ.desk :=
  desk_settled station_turn_self

theorem desk_settled_turn (hst : ∀ bells, station ≠ .owes bells) :
    ((ω.turn p station σ).settled t errand p).traffic.desk = σ.desk := by
  rw [settled_of_not_owes fun bells => ?_]
  · rfl
  · rw [station_turn_self]
    exact hst bells

namespace Sound

variable (h : ω.Sound t errand)

include h

theorem whole : ω.Whole t errand where
  claim v woken ha := by
    obtain ⟨⟨n, hp⟩, -⟩ := ha
    by_cases hclaimable : ω.traffic.Claimable t ((errand v).slot t)
    · obtain ⟨desk, hrun, hafter, -⟩ := Traffic.after_claim_granted h.maps v hclaimable
      simp only [after, hrun]
      rw [desk_settled_turn, hafter]
      · rfl
      · exact Station.awake_ne_owes
    · obtain ⟨desk, hrun, hafter, -⟩ := Traffic.after_claim_refused h.maps v hclaimable
      simp only [after, hrun, hp, Station.look]
      rw [desk_settled_turn, hafter]
      exact Station.ne_owes rfl
  collect v ha := by
    obtain ⟨⟨n, hp⟩, -⟩ := ha
    obtain ⟨desk, hrun, -⟩ := h.look_section errand v
    rw [Client.collect_eq, Attempt.bind_of_done hrun]
    cases hdone : (ω.slot t ((errand v).slot t)).done with
    | true =>
      rw [Slot.collect_of_done hdone] at hrun ⊢
      simp only [after, hrun]
      rw [desk_settled_owes, Traffic.after_elsewhere]
      rfl
    | false =>
      rw [Slot.collect_of_pending hdone] at hrun ⊢
      simp only [after, hrun, hp, Station.look]
      rw [desk_settled_turn, Traffic.after_elsewhere]
      · rfl
      · exact Station.ne_owes rfl
  abandon v _ := by
    obtain ⟨desk, hrun, -⟩ := h.letGo_section errand v
    rw [Client.abandon_eq, Attempt.bind_of_done hrun]
    simp only [after, hrun]
    rw [desk_settled_owes, Traffic.after_elsewhere]
    rfl
  turnAway v _ := by
    obtain ⟨desk, hrun, hafter, -⟩ := Traffic.after_turnAway errand h.maps v
    simp only [after]
    rw [desk_settled_turn, hafter, hrun]
    exact Station.awake_ne_owes
  scan w ha := by
    obtain ⟨-, -, n, hp⟩ := ha
    have hdesk : (ω.traffic.after t errand (.scan w)).desk =
        (Shift.takePending ⟨w, ω.traffic.desk⟩).2.desk := by
      simp only [Traffic.after]
      split
      · next hrun => rw [hrun]
      · next hrun => rw [hrun]
    simp only [after]
    split
    · rw [desk_settled_turn, hdesk]
      rintro bells hbusy
      cases hbusy
    · rw [desk_settled_turn, hdesk]
      rw [hp]
      exact Station.ne_owes rfl
  publish w copy rejection ha := by
    obtain ⟨hw, hp⟩ := ha
    have hs := (h.reaches.recorded.copied copy ((h.good _).busy copy hp)).1
    subst hw
    by_cases htaken : (ω.traffic.slot w.table copy.slot).generation = copy.request.generation ∧
        (ω.traffic.slot w.table copy.slot).done = false
    · obtain ⟨desk, hrun, hleft, -⟩ := h.putIn_taken rfl hs rejection htaken.1 htaken.2
      rw [Shift.publish_eq_putIn, Attempt.bind_of_done hrun]
      simp only [after, hrun, if_true, Shift.atDesk, Attempt.onPart_apply]
      rw [desk_settled_owes, Traffic.after_elsewhere, Desk.desk_rings (hleft.maps h.maps)]
    · obtain ⟨desk, hrun, -⟩ := h.putIn_stale rfl hs rejection htaken
      simp only [after, hrun]
      rw [desk_settled_turn]
      · rfl
      · exact Station.awake_ne_owes

end Sound

end Vigil

end Admission
