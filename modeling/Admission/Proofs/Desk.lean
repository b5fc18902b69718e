import Admission.Desk
import Mathlib.Logic.Function.Basic

set_option autoImplicit false

/-!
# What a section under the lock leaves

Whatever a party does at a table, its slots change only inside a section under the
table lock.  `Host.Rewrites` says what a step leaves in all slots and that it
touches neither the processes nor the mapping; every step of a client or a worker
is described by it.
-/

namespace Admission

namespace Host

/-- A slot of a table. -/
def slot (h : Host) (t : SlotTable) (index : Nat) : Slot :=
  (h.region t).slot index

/-- The table is mapped and has a layout that a table can have. -/
structure Maps (h : Host) (t : SlotTable) : Prop where
  mapped : t.segment < h.memory.segments.length
  valid : t.layout.Valid

/-- `after` comes from `before` by putting these slots into the table, and by changes
that no other party at the table can tell. -/
structure Rewrites (t : SlotTable) (slots : Nat → Slot) (before after : Host) : Prop where
  slot_eq : after.slot t = slots
  processes_eq : after.processes = before.processes
  segments_eq : after.memory.segments.length = before.memory.segments.length

namespace Rewrites

variable {t : SlotTable} {f g : Nat → Slot} {a b c : Host}

theorem refl (t : SlotTable) (h : Host) : Rewrites t (h.slot t) h h :=
  ⟨rfl, rfl, rfl⟩

theorem trans (h₁ : Rewrites t f a b) (h₂ : Rewrites t g b c) : Rewrites t g a c :=
  ⟨h₂.slot_eq, h₂.processes_eq.trans h₁.processes_eq, h₂.segments_eq.trans h₁.segments_eq⟩

/-- A step that keeps the slots adds nothing. -/
theorem keep (h₁ : Rewrites t f a b) (h₂ : Rewrites t (b.slot t) b c) : Rewrites t f a c :=
  h₁.slot_eq ▸ h₁.trans h₂

theorem slot_at (h : Rewrites t f a b) (index : Nat) : b.slot t index = f index :=
  congrFun h.slot_eq index

/-- The one slot that is rewritten is what it was rewritten to. -/
theorem slot_self {index : Nat} {new : Slot} (h : Rewrites t (Function.update f index new) a b) :
    b.slot t index = new :=
  (h.slot_at index).trans (Function.update_self _ _ _)

/-- Every other slot is what it was. -/
theorem slot_of_ne {index other : Nat} {new : Slot}
    (h : Rewrites t (Function.update f index new) a b) (hne : other ≠ index) :
    b.slot t other = f other :=
  (h.slot_at other).trans (Function.update_of_ne hne _ _)

theorem maps (h : Rewrites t f a b) (hm : a.Maps t) : b.Maps t :=
  ⟨by rw [h.segments_eq]; exact hm.mapped, hm.valid⟩

end Rewrites

theorem rewrites_say (t : SlotTable) (h : Host) (lines : List LogLine) :
    Rewrites t (h.slot t) h (h.say lines) :=
  ⟨rfl, rfl, rfl⟩

theorem rewrites_setRegion {h : Host} {t : SlotTable} (hm : h.Maps t) (r : Region) :
    Rewrites t r.slot h (h.setRegion t r) := by
  refine ⟨?_, rfl, ?_⟩
  · funext i
    rw [slot, region, setRegion, Memory.region_setRegion hm.mapped]
  · simp [setRegion]

/-- A section leaves what its body makes of the slots. -/
theorem locked_spec {α : Type} {h : Host} {t : SlotTable} (hm : h.Maps t)
    (body : Region → α × Region) :
    ∃ r : Region, r.slot = h.slot t ∧ (h.locked t body).1 = (body r).1 ∧
      Rewrites t (body r).2.slot h (h.locked t body).2 := by
  refine ⟨((h.region t).locking h.processes).1, ?_, rfl, ?_⟩
  · funext i
    exact Region.slot_locking _ _ i
  · exact (rewrites_setRegion hm _).keep (rewrites_say t _ _)

/-- A step on one slot under the lock. -/
theorem withSlot_spec {α : Type} {h : Host} {t : SlotTable} (hm : h.Maps t) {index : Nat}
    (hi : index < t.layout.slots) (step : Slot → α × Slot) :
    (withSlot t index step h).1 = .done (step (h.slot t index)).1 ∧
      Rewrites t (Function.update (h.slot t) index (step (h.slot t index)).2) h
        (withSlot t index step h).2 := by
  have hcap : index < maxSlots := Nat.lt_of_lt_of_le hi hm.valid.2.2
  have hbody : withSlot t index step h = h.locked t fun r : Region =>
      (Ending.done (step (r.slot index)).1, r.setSlot index (step (r.slot index)).2) := by
    simp only [withSlot, hi, if_true]
  rw [hbody]
  obtain ⟨r, hr, hres, hleft⟩ := locked_spec hm fun r : Region =>
    (Ending.done (step (r.slot index)).1, r.setSlot index (step (r.slot index)).2)
  have hslots : (r.setSlot index (step (r.slot index)).2).slot =
      Function.update (h.slot t) index (step (h.slot t index)).2 := by
    funext i
    rw [Region.slot_setSlot hcap, hr, Function.update_apply]
  exact ⟨by rw [hres, hr], hslots ▸ hleft⟩

end Host

namespace Desk

variable {α β : Type} {t : SlotTable} {d : Desk}

/-- Carried out at `d`, the step ends with `a` and leaves these slots in the table. -/
def Yields (t : SlotTable) (x : Attempt Desk α) (d : Desk) (a : α) (slots : Nat → Slot) : Prop :=
  ∃ d' : Desk, x d = (.done a, d') ∧ Host.Rewrites t slots d.host d'.host

/-- Wherever it is carried out, the step ends with `a` and leaves the slots alone. -/
def Quiet (t : SlotTable) (x : Attempt Desk α) (a : α) : Prop :=
  ∀ d : Desk, d.host.Maps t → Yields t x d a (d.host.slot t)

/-- A step on one slot, taken at a desk. -/
theorem yields_withSlot (hm : d.host.Maps t) {index : Nat} (hi : index < t.layout.slots)
    (step : Slot → α × Slot) :
    Yields t (onHost (Host.withSlot t index step)) d (step (d.host.slot t index)).1
      (Function.update (d.host.slot t) index (step (d.host.slot t index)).2) := by
  obtain ⟨hres, hleft⟩ := Host.withSlot_spec hm hi step
  exact ⟨_, Prod.ext hres rfl, hleft⟩

/-- What follows quietly changes the answer and not the slots. -/
theorem Yields.bind_quiet {x : Attempt Desk α} {f : α → Attempt Desk β} {a : α} {b : β}
    {slots : Nat → Slot} (hx : Yields t x d a slots) (hm : d.host.Maps t)
    (hf : Quiet t (f a) b) : Yields t (x >>= f) d b slots := by
  obtain ⟨d₁, hrun, hleft⟩ := hx
  obtain ⟨d₂, hrun', hleft'⟩ := hf d₁ (hleft.maps hm)
  exact ⟨d₂, by rw [Attempt.bind_of_done hrun, hrun'], hleft.keep hleft'⟩

theorem Quiet.bind {x : Attempt Desk α} {f : α → Attempt Desk β} {a : α} {b : β}
    (hx : Quiet t x a) (hf : Quiet t (f a) b) : Quiet t (x >>= f) b :=
  fun d hm => (hx d hm).bind_quiet hm hf

theorem quiet_pure (t : SlotTable) (a : α) : Quiet t (pure a) a :=
  fun d _ => ⟨d, rfl, .refl t d.host⟩

theorem quiet_say (t : SlotTable) (level : LogLevel) (message : String) :
    Quiet t (say level message) () :=
  fun d _ => ⟨_, rfl, Host.rewrites_say t d.host _⟩

theorem quiet_count (t : SlotTable) (event : Counter) : Quiet t (count event) () :=
  fun d _ => ⟨_, rfl, .refl t d.host⟩

/-- Sending signals leaves the slots alone. -/
theorem quiet_signal {f : Region → Region} (hf : ∀ r i, (f r).slot i = r.slot i) :
    Quiet t (signal t f) () := by
  intro d hm
  have hslots : (f (d.host.region t)).slot = d.host.slot t := funext (hf _)
  exact ⟨_, rfl, hslots ▸ Host.rewrites_setRegion hm _⟩

end Desk

end Admission
