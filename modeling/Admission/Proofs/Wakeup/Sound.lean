import Admission.Proofs.Wakeup.Vigil

set_option autoImplicit false

/-!
# What a sleeper relies on

Who looked in vain and has heard no ring since relies on it that there still is nothing
for him to find, or that somebody owes him a ring.  This is kept by every act: what
makes it false for the first time rings the bell, or leaves its party owing the ring.
-/

namespace Admission

/-- Of two changes that start from one host each is a change of what the other leaves. -/
theorem Host.Rewrites.sibling {t : SlotTable} {f g : Nat → Slot} {a b c : Host}
    (hb : Rewrites t f a b) (hc : Rewrites t g a c) : Rewrites t g b c :=
  ⟨hc.slot_eq, hc.processes_eq.trans hb.processes_eq.symm,
    hc.segments_eq.trans hb.segments_eq.symm⟩

/-! ## Hearing a ring -/

namespace Station

variable {station : Station} {b : Bell} {picked : Bool} {n : Note}

/-- Who sleeps on after a ring slept before, and the ring did not concern him. -/
theorem asleep_of_hear (h : station.hear b picked = .asleep n) :
    station = .asleep n ∧ ¬ (n.bell = b ∧ (b.wakesAll || picked) = true) := by
  cases station with
  | asleep m =>
    simp only [hear] at h
    split at h
    · cases h
    · next hdeaf => cases h; exact ⟨rfl, hdeaf⟩
  | awake => cases h
  | noted m => cases h
  | looked m => cases h
  | busy c => cases h
  | owes bells => cases h

theorem hear_cases (station : Station) (b : Bell) (picked : Bool) :
    station.hear b picked = station ∨ station.hear b picked = .awake := by
  cases station with
  | asleep n =>
    simp only [hear]
    split
    · exact .inr rfl
    · exact .inl rfl
  | awake => exact .inl rfl
  | noted n => exact .inl rfl
  | looked n => exact .inl rfl
  | busy c => exact .inl rfl
  | owes bells => exact .inl rfl

/-- Who is not simply awake after a ring is where it was. -/
theorem eq_of_hear {station' : Station} (h : station.hear b picked = station')
    (hne : station' ≠ .awake) : station = station' := by
  obtain hsame | hawake := hear_cases station b picked
  · exact hsame.symm.trans h
  · exact absurd (h.symm.trans hawake) hne

theorem note?_of_hear (h : (station.hear b picked).note? = some n) : station.note? = some n := by
  obtain hsame | hawake := hear_cases station b picked
  · rwa [hsame] at h
  · rw [hawake] at h
    cases h

end Station

namespace Vigil

variable (t : SlotTable) (errand : Nat → Errand)

/-- There is nothing to find for who listens to the bell, or a ring of it is owed: by a
worker if it tells of an answer. -/
def Content (ω : Vigil) (b : Bell) : Prop :=
  match b with
  | .work i => ∀ s ∈ t.layout.slotsOfWorker i, (ω.slot t s).done = true
  | .answered s => (ω.slot t s).done = false ∨ ∃ i : Nat, ω.Owes (.worker i) b
  | .freed s => (ω.slot t s).isIdle = false ∨ ∃ p : Party, ω.Owes p b

/-- The party looked and the bell was not rung since its note. -/
def Relies (ω : Vigil) (p : Party) (b : Bell) : Prop :=
  ∃ note, (ω.station p = .looked note ∨ ω.station p = .asleep note) ∧ note.bell = b ∧
    note.rings = ω.rings b

/-- What holds of a party, wherever it is. -/
structure Good (ω : Vigil) (p : Party) : Prop where
  /-- A note is of the bell that the party listens to, and as old as it says. -/
  note : ∀ note, (ω.station p).note? = some note → ω.Listens t errand p note.bell ∧
    note.ticket = .ofNat note.rings ∧ note.rings ≤ ω.rings note.bell
  content : ∀ b : Bell, ω.Relies p b → ω.Content t b
  /-- Who sleeps has heard no ring since its note. -/
  asleep : ∀ note, ω.station p = .asleep note → note.rings = ω.rings note.bell
  busy : ∀ copy, ω.station p = .busy copy → copy ∈ ω.traffic.copies
  owes : ∀ bells, ω.station p = .owes bells → ∀ b ∈ bells, b.On t

/-- The traffic goes on by a section of one party, which leaves these slots and rings
nowhere. -/
structure Section (ω : Vigil) (p : Party) (slots : Nat → Slot) (σ : Traffic) : Prop where
  reaches : Traffic.Reaches t errand (Traffic.Orderly errand) σ
  left : Host.Rewrites t slots ω.traffic.desk.host σ.desk.host
  bell_eq : ∀ b : Bell, σ.desk.host.bell t b = ω.bell t b
  copies : ∀ copy ∈ ω.traffic.copies, copy ∈ σ.copies
  phase_eq : ∀ v : Nat, p ≠ .client v → σ.phase v = ω.traffic.phase v

/-- What holds of a vigil at every moment. -/
structure Sound (ω : Vigil) : Prop where
  reaches : Traffic.Reaches t errand (Traffic.Orderly errand) ω.traffic
  /-- The bells show how often they were rung. -/
  counted : ∀ b : Bell, b.On t → (ω.bell t b).sent = .ofNat (ω.rings b)
  good : ∀ p : Party, ω.Good t errand p

variable {t errand} {ω : Vigil} {p q : Party} {b : Bell} {station : Station}

/-! ## Stations -/

section Station

variable {σ : Traffic}

theorem traffic_turn : (ω.turn p station σ).traffic = σ := rfl

theorem station_turn_self : (ω.turn p station σ).station p = station :=
  Function.update_self _ _ _

theorem station_turn_of_ne (h : q ≠ p) : (ω.turn p station σ).station q = ω.station q :=
  Function.update_of_ne h _ _

/-- Who turns without having owed anything takes no ring away that is owed. -/
theorem Owes.turn (hp : ∀ bells, ω.station p ≠ .owes bells) (h : ω.Owes q b) :
    (ω.turn p station σ).Owes q b := by
  obtain ⟨bells, hbells, hb⟩ := h
  have hq : q ≠ p := by
    rintro rfl
    exact hp bells hbells
  exact ⟨bells, (station_turn_of_ne hq).trans hbells, hb⟩

theorem owes_turn_self {bells : List Bell} (h : b ∈ bells) :
    (ω.turn p (.owes bells) σ).Owes p b :=
  ⟨bells, station_turn_self, h⟩

/-- A ring takes no other ring away that is owed. -/
theorem Owes.rung (h : ω.Owes q b) (other : Bell) (woken : Option Party) :
    (ω.rung t errand other woken).Owes q b := by
  obtain ⟨bells, hbells, hb⟩ := h
  exact ⟨bells, by simp only [Vigil.rung, hbells, Station.hear], hb⟩

end Station

/-- Who listens to a bell of a valid table listens to one that the table has. -/
theorem Listens.on (h : ω.Listens t errand p b) (hv : t.layout.Valid) : b.On t := by
  cases p with
  | client v =>
    obtain ⟨-, ⟨-, rfl⟩ | ⟨-, rfl⟩⟩ := h
    · exact (errand v).slot_lt hv
    · exact (errand v).slot_lt hv
  | worker i =>
    obtain ⟨hi, rfl⟩ := h
    exact hi

/-- Who waits for a verdict listens for the answer. -/
theorem Listens.eq_answered {v turn : Nat} (h : ω.Listens t errand (.client v) b)
    (hv : ω.traffic.phase v = .waiting turn) : b = .answered ((errand v).slot t) := by
  obtain ⟨-, ⟨harriving, -⟩ | ⟨-, hb⟩⟩ := h
  · cases hv.symm.trans harriving
  · exact hb

/-- Who tries to claim listens for a free slot. -/
theorem Listens.eq_freed {v : Nat} (h : ω.Listens t errand (.client v) b)
    (hv : ω.traffic.phase v = .arriving) : b = .freed ((errand v).slot t) := by
  obtain ⟨-, ⟨-, hb⟩ | ⟨⟨turn, hwaiting⟩, -⟩⟩ := h
  · exact hb
  · cases hv.symm.trans hwaiting

/-- What one listens to is a matter of the phase and of who runs. -/
theorem Listens.congr {ω' : Vigil} (h : ω.Listens t errand p b)
    (hprocesses : ω'.traffic.processes = ω.traffic.processes)
    (hphase : ∀ v : Nat, p = .client v → ω'.traffic.phase v = ω.traffic.phase v) :
    ω'.Listens t errand p b := by
  cases p with
  | client v =>
    simp only [Listens, Traffic.Alive, hprocesses, hphase v rfl]
    exact h
  | worker i => exact h

/-- What one may rely on stays true if the owed rings stay owed, and a slot that comes to
have something for a sleeper comes with a ring. -/
theorem Content.mono {ω' : Vigil} (h : ω.Content t b) (howes : ∀ q, ω.Owes q b → ω'.Owes q b)
    (hchange : match b with
      | .work i => ∀ s ∈ t.layout.slotsOfWorker i,
          (ω.slot t s).done = true → (ω'.slot t s).done = true
      | .answered s => (ω.slot t s).done = false →
          (ω'.slot t s).done = false ∨ ∃ i : Nat, ω'.Owes (.worker i) b
      | .freed s => (ω.slot t s).isIdle = false →
          (ω'.slot t s).isIdle = false ∨ ∃ p : Party, ω'.Owes p b) :
    ω'.Content t b := by
  cases b with
  | work i => exact fun s hs => hchange s hs (h s hs)
  | answered s => exact h.elim hchange fun ⟨i, hi⟩ => .inr ⟨i, howes _ hi⟩
  | freed s => exact h.elim hchange fun ⟨p, hp⟩ => .inr ⟨p, howes _ hp⟩

theorem Content.of_slots {ω' : Vigil} (h : ω.Content t b)
    (howes : ∀ q, ω.Owes q b → ω'.Owes q b) (hslot : ∀ s : Nat, ω'.slot t s = ω.slot t s) :
    ω'.Content t b := by
  refine h.mono howes ?_
  cases b with
  | work i => exact fun s _ hdone => (hslot s).symm ▸ hdone
  | answered s => exact fun hdone => .inl ((hslot s).symm ▸ hdone)
  | freed s => exact fun hidle => .inl ((hslot s).symm ▸ hidle)

theorem Section.slot_eq {σ : Traffic} {slots : Nat → Slot}
    (h : ω.Section t errand p slots σ) (s : Nat) : (ω.turn p station σ).slot t s = slots s :=
  h.left.slot_at s

/-! ## Sleepers at one bell -/

namespace Sound

variable (h : ω.Sound t errand)

include h

theorem maps : ω.traffic.desk.host.Maps t :=
  h.reaches.recorded.maps

/-- Who relies on something listens to its bell. -/
theorem listens (hp : ω.Relies p b) : ω.Listens t errand p b := by
  obtain ⟨n, hn | hn, rfl, -⟩ := hp
  · exact ((h.good p).note n (by rw [hn]; rfl)).1
  · exact ((h.good p).note n (by rw [hn]; rfl)).1

/-- Nobody else sleeps at a bell whose ring wakes one. -/
theorem sleeper_unique (hb : b.wakesAll = false) (hp : ω.SleepsAt p b) (hq : ω.SleepsAt q b) :
    p = q := by
  obtain ⟨n, hn, rfl⟩ := hp
  obtain ⟨n', hn', heq⟩ := hq
  have hlp := ((h.good p).note n (by rw [hn]; rfl)).1
  have hlq := ((h.good q).note n' (by rw [hn']; rfl)).1
  rw [heq] at hlq
  generalize n.bell = b at *
  cases p with
  | worker i =>
    obtain ⟨-, rfl⟩ := hlp
    cases q with
    | worker j =>
      obtain ⟨-, hij⟩ := hlq
      rw [Bell.work.inj hij]
    | client v =>
      obtain ⟨-, ⟨-, hne⟩ | ⟨-, hne⟩⟩ := hlq
      · cases hne
      · cases hne
  | client v =>
    obtain ⟨halive, ⟨-, rfl⟩ | ⟨hwaiting, rfl⟩⟩ := hlp
    · cases hb
    cases q with
    | worker j =>
      obtain ⟨-, hne⟩ := hlq
      cases hne
    | client u =>
      obtain ⟨halive', ⟨-, hne⟩ | ⟨hwaiting', hslot⟩⟩ := hlq
      · cases hne
      have hs : (errand v).slot t = (errand u).slot t := Bell.answered.inj hslot
      have hv : ω.traffic.Holds t errand v ((errand v).slot t) := ⟨rfl, hwaiting, halive⟩
      rw [hv.unique h.reaches.recorded h.reaches.owned ⟨hs.symm, hwaiting', halive'⟩]

/-! ## Two kinds of change -/

/-- One party turns after a section.  Nobody else may lose what he relies on. -/
theorem turn {σ : Traffic} {slots : Nat → Slot} (hsection : ω.Section t errand p slots σ)
    (hcontent : ∀ (q : Party) (b : Bell), q ≠ p → ω.Relies q b → ω.Content t b →
      (ω.turn p station σ).Content t b)
    (hgood : (ω.turn p station σ).Good t errand p) : (ω.turn p station σ).Sound t errand where
  reaches := hsection.reaches
  counted b hb := (congrArg Signal.sent (hsection.bell_eq b)).trans (h.counted b hb)
  good q := by
    by_cases hq : q = p
    · rw [hq]
      exact hgood
    have hst : (ω.turn p station σ).station q = ω.station q := station_turn_of_ne hq
    refine ⟨fun n hn => ?note, fun b hb => ?content, fun n hn => ?asleep, fun copy hcopy => ?busy,
      fun bells hbells => ?owes⟩
    case note =>
      rw [hst] at hn
      obtain ⟨hlistens, hticket⟩ := (h.good q).note n hn
      refine ⟨hlistens.congr hsection.left.processes_eq fun v hv =>
        hsection.phase_eq v fun hp => hq (hv.trans hp.symm), hticket⟩
    case content =>
      have hrelies : ω.Relies q b := by
        obtain ⟨n, hn, hbell⟩ := hb
        rw [hst] at hn
        exact ⟨n, hn, hbell⟩
      exact hcontent q b hq hrelies ((h.good q).content b hrelies)
    case asleep => exact (h.good q).asleep n (hst ▸ hn)
    case busy => exact hsection.copies copy ((h.good q).busy copy (hst ▸ hcopy))
    case owes => exact (h.good q).owes bells (hst ▸ hbells)

/-- A bell is rung: who sleeps there wakes up, and nobody relies on it any more. -/
theorem rung (hb : b.On t) {woken : Option Party} (hpicks : ω.Picks b woken) :
    (ω.rung t errand b woken).Sound t errand ∧
      ∀ q : Party, ¬ (ω.rung t errand b woken).Relies q b := by
  obtain ⟨hleft, hbell⟩ := Desk.rung_spec h.maps hb
  have hrings : ∀ other : Bell, (ω.rung t errand b woken).rings other =
      if other = b then ω.rings b + 1 else ω.rings other := fun other =>
    Function.update_apply _ _ _ _
  have hle : ∀ other : Bell, ω.rings other ≤ (ω.rung t errand b woken).rings other := by
    intro other
    rw [hrings]
    split
    · next heq => rw [heq]; omega
    · exact Nat.le_refl _
  -- Who still sleeps did not sleep at the bell.
  have hasleep : ∀ (q : Party) (n : Note), (ω.rung t errand b woken).station q = .asleep n →
      ω.station q = .asleep n ∧ n.bell ≠ b := by
    intro q n hn
    obtain ⟨hold, hdeaf⟩ := Station.asleep_of_hear hn
    refine ⟨hold, fun heq => hdeaf ⟨heq, ?_⟩⟩
    have hsleeps : ω.SleepsAt q b := ⟨n, hold, heq⟩
    cases hall : b.wakesAll with
    | true => rfl
    | false =>
      cases woken with
      | none => exact absurd hsleeps (hpicks.resolve_left (by rw [hall]; nofun) q)
      | some p => simp [h.sleeper_unique hall hpicks hsleeps]
  have hrelies : ∀ (q : Party) (other : Bell), (ω.rung t errand b woken).Relies q other →
      other ≠ b ∧ ω.Relies q other := by
    rintro q _ ⟨n, hn, rfl, hcount⟩
    have hold : ω.station q = .looked n ∨ ω.station q = .asleep n :=
      hn.imp (Station.eq_of_hear · nofun) fun hn => (hasleep q n hn).1
    have hnote : (ω.station q).note? = some n := by
      obtain hold | hold := hold
      · rw [hold]; rfl
      · rw [hold]; rfl
    have hold_le := ((h.good q).note n hnote).2.2
    rw [hrings] at hcount
    split at hcount
    · next heq => rw [heq] at hold_le; omega
    · next hne => exact ⟨hne, n, hold, rfl, hcount⟩
  refine ⟨⟨.move (.elsewhere (ω.traffic.desk.rung t b)) h.reaches hleft trivial,
    fun other hother => ?counted, fun q => ?good⟩, fun q hq => (hrelies q b hq).1 rfl⟩
  case counted =>
    refine (congrArg Signal.sent (hbell other)).trans ?_
    rw [hrings]
    split
    · exact (congrArg (· + 1) (h.counted b hb)).trans (UInt32.ofNat_add _ _).symm
    · exact h.counted other hother
  case good =>
    refine ⟨fun n hn => ?_, fun other hother => ?_, fun n hn => ?_,
      fun copy hcopy => (h.good q).busy copy (Station.eq_of_hear hcopy nofun),
      fun bells hbells => (h.good q).owes bells (Station.eq_of_hear hbells nofun)⟩
    · obtain ⟨hlistens, hticket, hcount⟩ := (h.good q).note n (Station.note?_of_hear hn)
      exact ⟨hlistens.congr hleft.processes_eq fun _ _ => rfl, hticket, Nat.le_trans hcount (hle _)⟩
    · obtain ⟨-, hold⟩ := hrelies q other hother
      exact ((h.good q).content other hold).of_slots (fun p hp => hp.rung b woken)
        fun s => hleft.slot_at s
    · obtain ⟨hold, hne⟩ := hasleep q n hn
      rw [hrings, if_neg hne]
      exact (h.good q).asleep n hold

end Sound

end Vigil

end Admission
