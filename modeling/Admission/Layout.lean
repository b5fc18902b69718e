import Admission.Settings.Error

set_option autoImplicit false

/-!
# Table layouts

How many slots a table uses and how many workers serve them.  Slots are dealt
to clients by key and to workers in turn, so every party finds the same slot and
worker on its own; the main statements are that both answers are in range.
-/

namespace Admission

/-- The capacity of a table, and the upper bound of the slot setting. -/
def maxSlots : Nat := 256

/-- Slot and worker counts. -/
structure Layout where
  slots : Nat
  workers : Nat
  deriving DecidableEq, Repr, Inhabited

namespace Layout

/-- A layout a table can have: at least one worker, a slot for each, no more
slots than the capacity. -/
def Valid (l : Layout) : Prop :=
  1 ≤ l.workers ∧ l.workers ≤ l.slots ∧ l.slots ≤ maxSlots

instance (l : Layout) : Decidable l.Valid :=
  inferInstanceAs (Decidable (_ ∧ _))

/-- The layout of these counts, if a table can have it. -/
def of? (slots workers : Nat) : Except ConfigError Layout :=
  if slots = 0 ∨ maxSlots < slots then
    .error (.outOfRange "slots" slots 1 maxSlots)
  else if workers = 0 ∨ slots < workers then
    .error (.outOfRange "workers" workers 1 slots)
  else
    .ok ⟨slots, workers⟩

/-- Exactly the valid counts make a layout. -/
theorem of?_eq_ok_iff {slots workers : Nat} {l : Layout} :
    of? slots workers = .ok l ↔ l = ⟨slots, workers⟩ ∧ l.Valid := by
  unfold of?
  constructor
  · intro h
    split at h
    · simp at h
    · split at h
      · simp at h
      · simp only [Except.ok.injEq] at h
        subst h
        refine ⟨rfl, ?_⟩
        simp only [Valid]
        omega
  · rintro ⟨rfl, h⟩
    simp only [Valid] at h
    rw [if_neg (by omega), if_neg (by omega)]

/-- The slot of the connection with this key. -/
def slotForKey (l : Layout) (key : Nat) : Nat :=
  key % l.slots

/-- The worker that serves a slot. -/
def workerForSlot (l : Layout) (slot : Nat) : Nat :=
  slot % l.workers

/-- The slots a worker serves, in order. -/
def slotsOfWorker (l : Layout) (worker : Nat) : List Nat :=
  (List.range l.slots).filter fun slot => worker ≤ slot ∧ (slot - worker) % l.workers = 0

theorem slotForKey_lt {l : Layout} (h : l.Valid) (key : Nat) : l.slotForKey key < l.slots :=
  Nat.mod_lt _ (by have := h.1; have := h.2.1; omega)

theorem workerForSlot_lt {l : Layout} (h : l.Valid) (slot : Nat) :
    l.workerForSlot slot < l.workers :=
  Nat.mod_lt _ h.1

theorem mem_slotsOfWorker {l : Layout} {worker slot : Nat} :
    slot ∈ l.slotsOfWorker worker ↔
      slot < l.slots ∧ worker ≤ slot ∧ (slot - worker) % l.workers = 0 := by
  simp [slotsOfWorker]

/-- Who serves a slot is the worker of that slot. -/
theorem workerForSlot_of_mem {l : Layout} {worker slot : Nat} (hw : worker < l.workers)
    (h : slot ∈ l.slotsOfWorker worker) : l.workerForSlot slot = worker := by
  obtain ⟨-, hle, hmod⟩ := mem_slotsOfWorker.mp h
  obtain ⟨turns, hturns⟩ := Nat.dvd_of_mod_eq_zero hmod
  have hslot : slot = worker + l.workers * turns := by omega
  rw [workerForSlot, hslot, Nat.add_mul_mod_self_left, Nat.mod_eq_of_lt hw]

end Layout

end Admission
