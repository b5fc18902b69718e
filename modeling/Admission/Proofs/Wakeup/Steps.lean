import Admission.Proofs.Traffic.OwnVerdict
import Admission.Proofs.Wakeup.Sound

set_option autoImplicit false

/-!
# Every act keeps a vigil sound

A party that looks in vain has seen that there is nothing for it; one that changes a slot
for others leaves its section owing the rings that tell them.
-/

namespace Admission

namespace Vigil

variable {t : SlotTable} {errand : Nat → Errand} {ω : Vigil} {p q : Party} {b : Bell}
  {n : Note} {station : Station} {σ : Traffic} {slots : Nat → Slot}

/-! ## The party itself -/

namespace Good

/-- Who has no note waits for nothing. -/
theorem of_no_note (hnote : (ω.station p).note? = none)
    (hbusy : ∀ copy, ω.station p = .busy copy → copy ∈ ω.traffic.copies)
    (howes : ∀ bells, ω.station p = .owes bells → ∀ b ∈ bells, b.On t) :
    ω.Good t errand p where
  note n hn := by
    rw [hnote] at hn
    cases hn
  content b hb := by
    obtain ⟨n, hn | hn, -⟩ := hb
    · rw [hn] at hnote
      cases hnote
    · rw [hn] at hnote
      cases hnote
  asleep n hn := by
    rw [hn] at hnote
    cases hnote
  busy := hbusy
  owes := howes

theorem awake (h : ω.station p = .awake) : ω.Good t errand p :=
  .of_no_note (by rw [h]; rfl) (by rw [h]; nofun) (by rw [h]; nofun)

theorem of_busy {copy : Copy} (h : ω.station p = .busy copy) (hcopy : copy ∈ ω.traffic.copies) :
    ω.Good t errand p := by
  refine .of_no_note (by rw [h]; rfl) (fun other hother => ?_) (by rw [h]; nofun)
  rw [h] at hother
  cases hother
  exact hcopy

theorem of_owes {bells : List Bell} (h : ω.station p = .owes bells) (hon : ∀ b ∈ bells, b.On t) :
    ω.Good t errand p := by
  refine .of_no_note (by rw [h]; rfl) (by rw [h]; nofun) fun other hother => ?_
  rw [h] at hother
  cases hother
  exact hon

theorem of_owing {bells : List Bell} (h : ω.station p = .owing bells)
    (hon : ∀ b ∈ bells, b.On t) : ω.Good t errand p := by
  cases bells with
  | nil => exact awake h
  | cons b rest => exact of_owes h hon

/-- Who has a note waits for what its bell tells. -/
theorem of_note (hnote : (ω.station p).note? = some n)
    (hn : ω.Listens t errand p n.bell ∧ n.ticket = .ofNat n.rings ∧ n.rings ≤ ω.rings n.bell)
    (hcontent : ω.Relies p n.bell → ω.Content t n.bell)
    (hasleep : ω.station p = .asleep n → n.rings = ω.rings n.bell) : ω.Good t errand p where
  note m hm := by
    cases hnote.symm.trans hm
    exact hn
  content b hb := by
    obtain ⟨m, hm, hbell, hrings⟩ := hb
    have hmn : some n = some m := hnote.symm.trans (by obtain hm | hm := hm <;> rw [hm] <;> rfl)
    cases hmn
    subst hbell
    exact hcontent ⟨n, hm, rfl, hrings⟩
  asleep m hm := by
    have hmn : some n = some m := hnote.symm.trans (by rw [hm]; rfl)
    cases hmn
    exact hasleep hm
  busy copy hcopy := by
    rw [hcopy] at hnote
    cases hnote
  owes bells hbells := by
    rw [hbells] at hnote
    cases hnote

theorem noted (h : ω.station p = .noted n)
    (hn : ω.Listens t errand p n.bell ∧ n.ticket = .ofNat n.rings ∧ n.rings ≤ ω.rings n.bell) :
    ω.Good t errand p := by
  refine .of_note (by rw [h]; rfl) hn ?_ (by rw [h]; nofun)
  rintro ⟨m, hm | hm, -⟩
  · cases h.symm.trans hm
  · cases h.symm.trans hm

end Good

/-! ## Sections -/

/-- A section that only gives slots back leaves the others what they rely on, if its party
then owes the ring for a slot that came free by it. -/
theorem Sound.loosen (h : ω.Sound t errand) (hsection : ω.Section t errand p slots σ)
    (hp : ∀ bells, ω.station p ≠ .owes bells)
    (hslots : ∀ s : Nat, (ω.slot t s).Loosened (slots s))
    (hfreed : ∀ s : Nat, (ω.slot t s).isIdle = false → (slots s).isIdle = true →
      (ω.turn p station σ).Owes p (.freed s))
    (hgood : (ω.turn p station σ).Good t errand p) : (ω.turn p station σ).Sound t errand := by
  refine h.turn hsection (fun q b _ _ hcontent => hcontent.mono (fun _ => Owes.turn hp) ?_) hgood
  cases b with
  | work i =>
    intro s _ hdone
    rw [hsection.slot_eq, (hslots s).done_eq]
    exact hdone
  | answered s =>
    intro hdone
    rw [hsection.slot_eq, (hslots s).done_eq]
    exact .inl hdone
  | freed s =>
    intro hbusy
    rw [hsection.slot_eq]
    cases hidle : (slots s).isIdle with
    | false => exact .inl rfl
    | true => exact .inr ⟨p, hfreed s hbusy hidle⟩

/-- A section that leaves the slots as they are leaves the others what they rely on. -/
theorem Sound.rest (h : ω.Sound t errand) (hsection : ω.Section t errand p (ω.slot t) σ)
    (hp : ∀ bells, ω.station p ≠ .owes bells)
    (hgood : (ω.turn p station σ).Good t errand p) : (ω.turn p station σ).Sound t errand :=
  h.loosen hsection hp (fun _ => .refl _)
    (fun _ hbusy hidle => absurd (hbusy.symm.trans hidle) nofun) hgood

/-- A party may change its mind without a section. -/
theorem Sound.section_self (h : ω.Sound t errand) (p : Party) :
    ω.Section t errand p (ω.slot t) ω.traffic :=
  ⟨h.reaches, .refl t _, fun _ => rfl, fun _ => id, fun _ _ => rfl⟩

/-- A move that is one section. -/
theorem Sound.section_move (h : ω.Sound t errand) {m : Move}
    (hpermits : ω.traffic.Permits t m) (horderly : ω.traffic.Orderly errand m)
    (hafter : ω.traffic.after t errand m = σ)
    (hleft : Host.Rewrites t slots ω.traffic.desk.host σ.desk.host)
    (hbell : ∀ b : Bell, σ.desk.host.bell t b = ω.bell t b)
    (hcopies : ∀ copy ∈ ω.traffic.copies, copy ∈ σ.copies)
    (hphase : ∀ v : Nat, p ≠ .client v → σ.phase v = ω.traffic.phase v) :
    ω.Section t errand p slots (ω.traffic.after t errand m) where
  reaches := .move m h.reaches hpermits horderly
  left := hafter ▸ hleft
  bell_eq := hafter ▸ hbell
  copies := hafter ▸ hcopies
  phase_eq := hafter ▸ hphase

/-- The section of a step: the traffic records the step, and the table is as the section
leaves it. -/
theorem Sound.section_of (h : ω.Sound t errand) {m : Move} {desk : Desk}
    (hpermits : ω.traffic.Permits t m) (horderly : ω.traffic.Orderly errand m)
    (hstep : Host.Rewrites t slots ω.traffic.desk.host (ω.traffic.after t errand m).desk.host)
    (hsection : Host.Rewrites t slots ω.traffic.desk.host desk.host)
    (hbell : ∀ b : Bell, desk.host.bell t b = ω.bell t b)
    (hcopies : (ω.traffic.after t errand m).copies = ω.traffic.copies)
    (hphase : ∀ v : Nat, p ≠ .client v →
      (ω.traffic.after t errand m).phase v = ω.traffic.phase v) :
    ω.Section t errand p slots
      ((ω.traffic.after t errand m).after t errand (.elsewhere desk)) where
  reaches := by
    refine .move (.elsewhere desk) (.move m h.reaches hpermits horderly) ?_ trivial
    have hleft := hstep.sibling hsection
    rwa [← hstep.slot_eq] at hleft
  left := by
    rw [Traffic.after_elsewhere]
    exact hsection
  bell_eq := by
    rw [Traffic.after_elsewhere]
    exact hbell
  copies copy hcopy := by
    rw [Traffic.after_elsewhere]
    exact hcopies.symm ▸ hcopy
  phase_eq := by
    rw [Traffic.after_elsewhere]
    exact hphase

/-- Who noted a count and looked in vain listens on. -/
theorem Good.look (hgood : ω.Good t errand p) (hp : ω.station p = .noted n)
    (hsection : ω.Section t errand p slots σ) (hphase : σ.phase = ω.traffic.phase)
    (hcontent : (ω.turn p (.looked n) σ).Content t n.bell) :
    (ω.turn p (.looked n) σ).Good t errand p := by
  have hst : (ω.turn p (.looked n) σ).station p = .looked n := station_turn_self
  obtain ⟨hlistens, hticket, hle⟩ := hgood.note n (by rw [hp]; rfl)
  exact .of_note (by rw [hst]; rfl)
    ⟨hlistens.congr hsection.left.processes_eq fun v _ => congrFun hphase v, hticket, hle⟩
    (fun _ => hcontent) (by rw [hst]; nofun)

variable (t errand) in
/-- What a ring changes at the table, and what is left to ring. -/
theorem desk_ring {rest : List Bell} (hp : ω.station p = .owes (b :: rest))
    (woken : Option Party) :
    (ω.after t errand (.ring p woken)).traffic.desk = ω.traffic.desk.rung t b ∧
      (ω.after t errand (.ring p woken)).station p = .owing rest := by
  simp only [after, hp]
  exact ⟨rfl, station_turn_self⟩

/-- Rings that are owed change the desk one by one. -/
theorem desk_settled {bells : List Bell} (hp : ω.station p = .owes bells) :
    (ω.settled t errand p).traffic.desk = bells.foldl (fun d b => d.rung t b) ω.traffic.desk := by
  have hfold : ∀ (bells : List Bell) (ω : Vigil), ω.station p = .owing bells →
      (bells.foldl (fun ω _ => ω.after t errand (.ring p none)) ω).traffic.desk =
        bells.foldl (fun d b => d.rung t b) ω.traffic.desk := by
    intro bells
    induction bells with
    | nil => exact fun _ _ => rfl
    | cons b rest ih =>
      intro ω hp
      obtain ⟨hdesk, hrest⟩ := desk_ring t errand hp none
      rw [List.foldl_cons, List.foldl_cons, ih _ hrest, hdesk]
  rw [settled, hp]
  cases bells with
  | nil => rfl
  | cons b rest => exact hfold (b :: rest) ω hp

/-- Who owes nothing has nothing to ring. -/
theorem settled_of_not_owes (hp : ∀ bells, ω.station p ≠ .owes bells) :
    ω.settled t errand p = ω := by
  unfold settled
  split
  · next bells hbells => exact absurd hbells (hp bells)
  · rfl

namespace Sound

variable (h : ω.Sound t errand)

include h

/-! ## Sections that change a slot -/

/-- Who gives a slot back owes the ring that it may be free. -/
theorem handBack {s : Nat} {new : Slot} (hs : s < t.layout.slots)
    (hsection : ω.Section t errand p (Function.update (ω.slot t) s new) σ)
    (hp : ∀ bells, ω.station p ≠ .owes bells) (hnew : (ω.slot t s).Loosened new) :
    (ω.turn p (.owes [.freed s]) σ).Sound t errand := by
  refine h.loosen hsection hp (.update hnew) (fun other hbusy hidle => ?_)
    (.of_owes station_turn_self fun b hb => ?_)
  · by_cases hother : other = s
    · rw [hother]
      exact owes_turn_self List.mem_cons_self
    · rw [Function.update_of_ne hother, hbusy] at hidle
      cases hidle
  · rw [List.mem_singleton.mp hb]
    exact hs

/-- A request may be put into a slot while its worker relies on nothing. -/
theorem occupy {s : Nat} {new : Slot}
    (hdeaf : ∀ q : Party, ¬ ω.Relies q (.work (t.layout.workerForSlot s)))
    (hsection : ω.Section t errand p (Function.update (ω.slot t) s new) σ)
    (hp : ∀ bells, ω.station p ≠ .owes bells) (hnew : new.done = false) :
    (ω.turn p .awake σ).Sound t errand := by
  refine h.turn hsection (fun q b _ hrelies hcontent => ?_) (.awake station_turn_self)
  refine hcontent.mono (fun _ => Owes.turn hp) ?_
  cases b with
  | work i =>
    intro other hother hdone
    have hne : other ≠ s := by
      rintro rfl
      obtain rfl := Layout.workerForSlot_of_mem ((h.listens hrelies).on h.maps.valid) hother
      exact hdeaf q hrelies
    rw [hsection.slot_eq, Function.update_of_ne hne]
    exact hdone
  | answered other =>
    intro hdone
    rw [hsection.slot_eq, Function.update_apply]
    split
    · exact .inl hnew
    · exact .inl hdone
  | freed other =>
    intro hbusy
    rw [hsection.slot_eq, Function.update_apply]
    split
    · refine .inl (Bool.eq_false_iff.mpr fun hidle => ?_)
      rw [(Slot.isIdle_iff.mp hidle).2] at hnew
      cases hnew
    · exact .inl hbusy

/-- A worker that answers a slot owes the signal to the client, and the ring that the slot
may be free. -/
theorem answer {i s : Nat} {new : Slot} (hs : s < t.layout.slots)
    (hsection : ω.Section t errand (.worker i) (Function.update (ω.slot t) s new) σ)
    (hp : ∀ bells, ω.station (.worker i) ≠ .owes bells) (hnew : new.done = true) :
    (ω.turn (.worker i) (.owes [.answered s, .freed s]) σ).Sound t errand := by
  refine h.turn hsection (fun q b _ _ hcontent => ?_) (.of_owes station_turn_self ?_)
  · refine hcontent.mono (fun _ => Owes.turn hp) ?_
    cases b with
    | work j =>
      intro other _ hdone
      rw [hsection.slot_eq, Function.update_apply]
      split
      · exact hnew
      · exact hdone
    | answered other =>
      intro hdone
      rw [hsection.slot_eq, Function.update_apply]
      split
      · next heq => exact .inr ⟨i, owes_turn_self (by simp [heq])⟩
      · exact .inl hdone
    | freed other =>
      intro hbusy
      rw [hsection.slot_eq, Function.update_apply]
      split
      · next heq => exact .inr ⟨.worker i, owes_turn_self (by simp [heq])⟩
      · exact .inl hbusy
  · simp only [List.mem_cons, List.not_mem_nil, or_false, forall_eq_or_imp, forall_eq]
    exact ⟨hs, hs⟩

/-! ## Going to sleep and waking up -/

theorem note (ha : ω.Permits t errand (.note p b)) :
    (ω.after t errand (.note p b)).Sound t errand := by
  obtain ⟨hp, hlistens⟩ := ha
  rw [after_note]
  exact h.rest (h.section_self p) (by rw [hp]; nofun) <| .noted station_turn_self
    ⟨hlistens.congr rfl fun _ _ => rfl, h.counted b (hlistens.on h.maps.valid), Nat.le_refl _⟩

theorem sleep (ha : ω.Permits t errand (.sleep p)) :
    (ω.after t errand (.sleep p)).Sound t errand := by
  obtain ⟨n, hp, htime⟩ := ha
  have hnote : (ω.station p).note? = some n := by
    rw [hp]
    rfl
  have howes := Station.ne_owes hnote
  obtain ⟨hlistens, hticket, hle⟩ := (h.good p).note n hnote
  simp only [after, hp]
  refine h.rest (h.section_self p) howes ?_
  split
  · next hsleeps =>
    -- The bell shows the noted count, so that it was not rung since.
    have hrings : n.rings = ω.rings n.bell := by
      refine Traffic.eq_of_number_eq hle htime ?_
      rw [← hticket, ← h.counted n.bell (hlistens.on h.maps.valid)]
      exact (eq_of_beq hsleeps).symm
    refine .of_note (by rw [station_turn_self]; rfl)
      ⟨hlistens.congr rfl fun _ _ => rfl, hticket, hle⟩ (fun _ => ?_) fun _ => hrings
    exact ((h.good p).content n.bell ⟨n, .inl hp, rfl, hrings⟩).of_slots
      (fun _ => Owes.turn howes) fun _ => rfl
  · exact .awake station_turn_self

theorem wake (ha : ω.Permits t errand (.wake p)) :
    (ω.after t errand (.wake p)).Sound t errand := by
  obtain ⟨n, hp⟩ := ha
  exact h.rest (h.section_self p) (Station.ne_owes (by rw [hp]; rfl)) (.awake station_turn_self)

theorem replace {i : Nat} (ha : ω.Permits t errand (.replace i)) :
    (ω.after t errand (.replace i)).Sound t errand :=
  h.rest (h.section_self _) ha (.awake station_turn_self)

/-! ## Ringing -/

theorem ring {woken : Option Party} (ha : ω.Permits t errand (.ring p woken)) :
    (ω.after t errand (.ring p woken)).Sound t errand := by
  obtain ⟨b, rest, hp, hpicks⟩ := ha
  have hon := (h.good p).owes _ hp
  obtain ⟨hrung, hdeaf⟩ := h.rung (hon b List.mem_cons_self) hpicks
  have hp' : (ω.rung t errand b woken).station p = .owes (b :: rest) := by
    simp only [Vigil.rung, hp, Station.hear]
  simp only [after, hp]
  refine hrung.turn (hrung.section_self p) (fun q other _ hrelies hcontent => ?_)
    (.of_owing station_turn_self fun other hother => hon other (List.mem_cons_of_mem b hother))
  have hne : other ≠ b := by
    rintro rfl
    exact hdeaf q hrelies
  -- The party still owes what others rely on.
  refine hcontent.of_slots (fun u hu => ?_) fun _ => rfl
  obtain ⟨bells, hbells, hmem⟩ := hu
  by_cases hup : u = p
  · subst hup
    cases hp'.symm.trans hbells
    have hrest : other ∈ rest := (List.mem_cons.mp hmem).resolve_left hne
    obtain ⟨c, rest', rfl⟩ := List.exists_cons_of_ne_nil (List.ne_nil_of_mem hrest)
    exact owes_turn_self hrest
  · exact ⟨bells, (station_turn_of_ne hup).trans hbells, hmem⟩

end Sound

end Vigil

end Admission
