import Admission.Proofs.Wakeup.Steps

set_option autoImplicit false

/-!
# Clients keep a vigil sound

A client that gives a slot back owes the ring for it.  A claim that is granted rings
before the request is in the slot, but in the same section.
-/

namespace Admission

namespace Vigil

variable {t : SlotTable} {errand : Nat → Errand} {ω : Vigil} {p : Party} {n : Note}
  {σ : Traffic}

namespace Sound

variable (h : ω.Sound t errand)

include h

variable (errand) in
/-- The section of a look for the verdict. -/
theorem look_section (v : Nat) :
    ∃ desk : Desk,
      ((errand v).client t).look ((errand v).ticket t) ω.traffic.desk =
        (.done (ω.slot t ((errand v).slot t)).collect.2, desk) ∧
      Host.Rewrites t
        (Function.update (ω.slot t) ((errand v).slot t) (ω.slot t ((errand v).slot t)).collect.1)
        ω.traffic.desk.host desk.host ∧
      ∀ b : Bell, desk.host.bell t b = ω.bell t b := by
  have hm := h.maps
  have hbell := ((errand v).client t).bell_look ((errand v).ticket t) hm
  obtain ⟨desk, hrun, hleft⟩ :=
    ((errand v).client t).look_spec ((errand v).ticket t) hm ((errand v).slot_lt hm.valid)
  rw [hrun] at hbell
  exact ⟨desk, hrun, hleft, hbell⟩

theorem collect {v : Nat} (ha : ω.Permits t errand (.collect v)) :
    (ω.after t errand (.collect v)).Sound t errand := by
  obtain ⟨⟨n, hp⟩, halive, turn, hturn⟩ := ha
  have hm := h.maps
  have hnote : (ω.station (.client v)).note? = some n := by
    rw [hp]
    rfl
  have howes := Station.ne_owes hnote
  have hpermits : ω.traffic.Permits t (.collect v) := ⟨turn, by rw [hturn]; rfl⟩
  have horderly : ω.traffic.Orderly errand (.collect v) := ⟨halive, turn, hturn⟩
  obtain ⟨desk, hrun, hleft, hbell⟩ := h.look_section errand v
  cases hdone : (ω.slot t ((errand v).slot t)).done with
  | true =>
    rw [Slot.collect_of_done hdone] at hrun hleft
    obtain ⟨desk', -, hafter, hstep⟩ := Traffic.after_collect_done hm v hdone
    simp only [after, hrun]
    refine h.handBack ((errand v).slot_lt hm.valid)
      (h.section_of hpermits horderly (hafter ▸ hstep) hleft hbell (hafter ▸ rfl) fun u hu => ?_)
      howes (.inr rfl)
    rw [hafter]
    exact Function.update_of_ne (fun huv => hu (by rw [huv])) _ _
  | false =>
    rw [Slot.collect_of_pending hdone] at hrun hleft
    rw [Function.update_eq_self] at hleft
    obtain ⟨desk', -, hafter, hstep⟩ := Traffic.after_collect_pending hm v hdone
    simp only [after, hrun, hp, Station.look]
    have hsection := h.section_of (p := .client v) hpermits horderly (hafter ▸ hstep) hleft hbell
      (hafter ▸ rfl) fun u _ => hafter ▸ rfl
    refine h.rest hsection howes ((h.good _).look hp hsection (hafter ▸ rfl) ?_)
    rw [((h.good _).note n hnote).1.eq_answered hturn]
    exact .inl ((congrArg Slot.done (hsection.slot_eq _)).trans hdone)

variable (errand) in
/-- The section of giving up. -/
theorem letGo_section (v : Nat) :
    ∃ desk : Desk,
      ((errand v).client t).letGo ((errand v).ticket t) ω.traffic.desk = (.done (), desk) ∧
      Host.Rewrites t
        (Function.update (ω.slot t) ((errand v).slot t)
          ((ω.slot t ((errand v).slot t)).abandon (errand v).pid))
        ω.traffic.desk.host desk.host ∧
      ∀ b : Bell, desk.host.bell t b = ω.bell t b := by
  have hm := h.maps
  have hbell := ((errand v).client t).bell_letGo ((errand v).ticket t) hm
  obtain ⟨desk, hrun, hleft⟩ :=
    ((errand v).client t).letGo_spec ((errand v).ticket t) hm ((errand v).slot_lt hm.valid)
  rw [hrun] at hbell
  exact ⟨desk, hrun, hleft, hbell⟩

omit h in
/-- Who neither sleeps nor owes a ring may do something else. -/
theorem not_owes_of_free (hp : ω.Free p) (bells : List Bell) : ω.station p ≠ .owes bells := by
  obtain hp | ⟨n, hp⟩ | ⟨n, hp⟩ := hp
  · rw [hp]
    nofun
  · exact Station.ne_owes (by rw [hp]; rfl) bells
  · exact Station.ne_owes (by rw [hp]; rfl) bells

theorem abandon {v : Nat} (ha : ω.Permits t errand (.abandon v)) :
    (ω.after t errand (.abandon v)).Sound t errand := by
  obtain ⟨hp, halive, turn, hturn⟩ := ha
  have hm := h.maps
  obtain ⟨desk, hrun, hleft, hbell⟩ := h.letGo_section errand v
  obtain ⟨desk', -, hafter, hstep⟩ := Traffic.after_abandon errand hm v
  simp only [after, hrun]
  refine h.handBack ((errand v).slot_lt hm.valid)
    (h.section_of (m := .abandon v) ⟨turn, by rw [hturn]; rfl⟩ ⟨halive, turn, hturn⟩
      (hafter ▸ hstep) hleft hbell (hafter ▸ rfl) fun u hu => ?_)
    (not_owes_of_free hp) (.abandon _ _)
  rw [hafter]
  exact Function.update_of_ne (fun huv => hu (by rw [huv])) _ _

theorem turnAway {v : Nat} (ha : ω.Permits t errand (.turnAway v)) :
    (ω.after t errand (.turnAway v)).Sound t errand := by
  obtain ⟨hp, halive, harriving⟩ := ha
  obtain ⟨desk, hrun, hafter, hleft⟩ := Traffic.after_turnAway errand h.maps v
  have hbell := ((errand v).client t).bell_reportNoSlot ω.traffic.desk t
  rw [hrun] at hbell
  exact h.rest (h.section_move harriving halive hafter hleft hbell (fun _ => id)
      fun u hu => Function.update_of_ne (fun huv => hu (by rw [huv])) _ _)
    (not_owes_of_free hp) (.awake station_turn_self)

variable (errand) in
/-- A claim rings for the worker of the slot if it is granted. -/
theorem bell_claim (v : Nat) (b : Bell) :
    (((errand v).client t).claim (errand v).connection (errand v).status
        ω.traffic.desk).2.host.bell t b =
      if ω.traffic.Claimable t ((errand v).slot t) then
        (ω.traffic.desk.rung t (.work (t.layout.workerForSlot ((errand v).slot t)))).host.bell t b
      else ω.bell t b :=
  (((errand v).client t).bell_claim h.maps _ _ ((errand v).slot_lt h.maps.valid) b).trans
    (if_congr Slot.claim_granted_iff rfl rfl)

/-- A claim that is refused finds its slot taken, or not answered. -/
theorem claim_refused {v : Nat} (hp : ω.station (.client v) = .noted n)
    (halive : ω.traffic.Alive errand v) (harriving : ω.traffic.phase v = .arriving)
    {woken : Option Party} (hrefused : ¬ ω.traffic.Claimable t ((errand v).slot t)) :
    (ω.after t errand (.claim v woken)).Sound t errand := by
  have hm := h.maps
  obtain ⟨desk, hrun, hafter, hleft⟩ := Traffic.after_claim_refused hm v hrefused
  have hbell := h.bell_claim errand v
  simp only [hrun, if_neg hrefused] at hbell
  have hsection : ω.Section t errand (.client v)
      (Function.update (ω.slot t) ((errand v).slot t)
        ((ω.slot t ((errand v).slot t)).reclaim ω.traffic.processes))
      (ω.traffic.after t errand (.claim v)) :=
    h.section_move harriving halive hafter hleft hbell (fun _ => id) fun _ _ => rfl
  -- Once it is taken from a holder that is gone it is free, if it was answered.
  have hidle : ((ω.slot t ((errand v).slot t)).reclaim ω.traffic.processes).isIdle = false := by
    refine Bool.eq_false_iff.mpr fun hidle => hrefused ?_
    obtain ⟨hfree, hdone⟩ := Slot.isIdle_iff.mp hidle
    exact ⟨Slot.reclaim_done ▸ hdone, Slot.reclaim_available.mp hfree⟩
  simp only [after, hrun, hp, Station.look]
  refine h.loosen hsection (Station.ne_owes (by rw [hp]; rfl)) (.update (.reclaim _ _))
    (fun s hbusy hfree => ?_) ((h.good _).look hp hsection (by rw [hafter]) ?_)
  · by_cases hs : s = (errand v).slot t
    · rw [hs, Function.update_self, hidle] at hfree
      cases hfree
    · rw [Function.update_of_ne hs, hbusy] at hfree
      cases hfree
  · rw [((h.good _).note n (by rw [hp]; rfl)).1.eq_freed harriving]
    refine .inl ((congrArg Slot.isIdle (hsection.slot_eq _)).trans ?_)
    rw [Function.update_self]
    exact hidle

/-- A claim that is granted has rung for the worker that it gives something to do. -/
theorem claim_granted {v : Nat} (hp : ω.station (.client v) = .noted n)
    (halive : ω.traffic.Alive errand v) (harriving : ω.traffic.phase v = .arriving)
    {woken : Option Party}
    (hpicks : ω.Picks (.work (t.layout.workerForSlot ((errand v).slot t))) woken)
    (hgranted : ω.traffic.Claimable t ((errand v).slot t)) :
    (ω.after t errand (.claim v woken)).Sound t errand := by
  have hm := h.maps
  obtain ⟨desk, hrun, hafter, hleft⟩ := Traffic.after_claim_granted hm v hgranted
  have hon : (Bell.work (t.layout.workerForSlot ((errand v).slot t))).On t :=
    Layout.workerForSlot_lt hm.valid _
  obtain ⟨hrung, hdeaf⟩ := h.rung hon hpicks
  obtain ⟨hring, -⟩ := Desk.rung_spec hm hon
  have hbell := h.bell_claim errand v
  simp only [hrun, if_pos hgranted] at hbell
  have hnote : ((ω.rung t errand (.work (t.layout.workerForSlot ((errand v).slot t)))
      woken).station (.client v)).note? = some n := by
    simp only [Vigil.rung, hp, Station.hear]
    rfl
  have hsection : (ω.rung t errand (.work (t.layout.workerForSlot ((errand v).slot t)))
      woken).Section t errand (.client v)
      (Function.update ((ω.traffic.desk.rung t (.work (t.layout.workerForSlot
          ((errand v).slot t)))).host.slot t) ((errand v).slot t)
        (((ω.slot t ((errand v).slot t)).reclaim ω.traffic.processes).publishRequest
          (errand v).pid (errand v).connection (errand v).status))
      (ω.traffic.after t errand (.claim v)) := by
    refine ⟨.move _ h.reaches harriving halive, ?_, ?_, ?_, fun u hu => ?_⟩
    · rw [hafter, hring.slot_eq]
      exact hring.sibling hleft
    · rw [hafter]
      exact hbell
    · rw [hafter]
      exact fun _ => id
    · rw [hafter]
      exact Traffic.granted_phase_of_ne _ _ _ _ fun huv => hu (by rw [huv])
  simp only [after, hrun]
  exact hrung.occupy hdeaf hsection (Station.ne_owes hnote) rfl

theorem claim {v : Nat} {woken : Option Party} (ha : ω.Permits t errand (.claim v woken)) :
    (ω.after t errand (.claim v woken)).Sound t errand := by
  obtain ⟨⟨n, hp⟩, halive, harriving, hpicks⟩ := ha
  by_cases hclaimable : ω.traffic.Claimable t ((errand v).slot t)
  · exact h.claim_granted hp halive harriving hpicks hclaimable
  · exact h.claim_refused hp halive harriving hclaimable

end Sound

end Vigil

end Admission
