import Admission.Client
import Admission.Proofs.Worker

set_option autoImplicit false

/-!
# No slot starves

The workers of a layout share its slots out: every slot is on the list of exactly one of
them.  A scan finds a pending slot of its worker whenever there is one, and begins one
slot further than the scan before.  So a slot that stays pending is picked within as many
scans as its worker has slots, whatever becomes of the other slots meanwhile.
-/

namespace Admission

namespace Layout

variable {l : Layout} {worker slot : Nat}

/-- A slot is on the list of the worker that serves it. -/
theorem mem_slotsOfWorker_workerForSlot (hslot : slot < l.slots) :
    slot ∈ l.slotsOfWorker (l.workerForSlot slot) := by
  have hrest : l.workers ∣ slot - slot % l.workers := Nat.dvd_sub_mod slot
  exact mem_slotsOfWorker.mpr ⟨hslot, Nat.mod_le _ _, Nat.mod_eq_zero_of_dvd hrest⟩

/-- The workers share the slots out among them. -/
structure SharesOut (l : Layout) : Prop where
  nonempty : ∀ worker < l.workers, l.slotsOfWorker worker ≠ []
  disjoint : ∀ worker < l.workers, ∀ other < l.workers, worker ≠ other →
    ∀ slot ∈ l.slotsOfWorker worker, slot ∉ l.slotsOfWorker other
  covers : ∀ slot < l.slots, ∃ worker < l.workers, slot ∈ l.slotsOfWorker worker
  placed : ∀ slot < l.slots, slot ∈ l.slotsOfWorker (l.workerForSlot slot)
  /-- No slot is listed twice, and the lists are in order. -/
  ordered : ∀ worker < l.workers, (l.slotsOfWorker worker).Pairwise (· < ·)

/-- If there is a worker, and a slot for each, the slots are shared out. -/
theorem sharesOut (hworkers : 1 ≤ l.workers) (hslots : l.workers ≤ l.slots) : l.SharesOut where
  nonempty worker hw := by
    apply List.ne_nil_of_mem (a := worker)
    rw [mem_slotsOfWorker, Nat.sub_self, Nat.zero_mod]
    exact ⟨Nat.lt_of_lt_of_le hw hslots, Nat.le_refl _, rfl⟩
  disjoint worker hw other hother hne := by
    intro slot hmem hmem'
    exact hne ((workerForSlot_of_mem hw hmem).symm.trans (workerForSlot_of_mem hother hmem'))
  covers slot hslot :=
    ⟨l.workerForSlot slot, Nat.mod_lt _ hworkers, mem_slotsOfWorker_workerForSlot hslot⟩
  placed slot hslot := mem_slotsOfWorker_workerForSlot hslot
  ordered worker hw := List.pairwise_lt_range.filter _

end Layout

namespace Worker

/-- The second worker is the first one, or has its place, after so many more scans. -/
structure Moved (w : Worker) (count : Nat) (w' : Worker) : Prop where
  index_eq : w'.index = w.index
  table_eq : w'.table = w.table
  scans_eq : w'.scans = w.scans + .ofNat count

theorem Moved.slots_eq {w w' : Worker} {count : Nat} (h : w.Moved count w') :
    w'.slots = w.slots := by
  rw [slots, slots, h.table_eq, h.index_eq]

end Worker

namespace Shift

variable {s : Shift}

/-! ## One scan -/

/-- A scan by a worker with slots ends with what is found in the slots as they are. -/
theorem takePending_fst (hw : s.worker.slots ≠ []) :
    (takePending s).1 = .done (found s.worker (s.desk.host.slot s.worker.table)) := by
  have hslots : ((s.desk.host.region s.worker.table).locking s.desk.host.processes).1.slot =
      s.desk.host.slot s.worker.table := funext (Region.slot_locking _ _)
  unfold takePending
  rw [Attempt.gets_bind_apply, if_neg hw, Attempt.modify_bind_apply, found, ← hslots]
  rfl

theorem found_eq_none_iff {w : Worker} {slots : Nat → Slot} :
    found w slots = none ↔ ∀ slot ∈ w.slots, (slots slot).done = true := by
  simp [found, Worker.mem_scanOrder]

/-- A scan ends without a panic: with a pending slot of the worker and the request in it,
or, if none of its slots is pending, with nothing. -/
structure ScansOwn (s : Shift) : Prop where
  finds : (∃ slot ∈ s.worker.slots, (s.desk.host.slot s.worker.table slot).done = false) →
    ∃ slot ∈ s.worker.slots, (s.desk.host.slot s.worker.table slot).done = false ∧
      (takePending s).1 = .done (some (slot, (s.desk.host.slot s.worker.table slot).request))
  rests : (∀ slot ∈ s.worker.slots, (s.desk.host.slot s.worker.table slot).done = true) →
    (takePending s).1 = .done none

theorem scansOwn (hw : s.worker.slots ≠ []) : s.ScansOwn where
  finds := by
    rintro ⟨waiting, hmem, hwaiting⟩
    rw [takePending_fst hw]
    cases hfound : found s.worker (s.desk.host.slot s.worker.table) with
    | none =>
      have hdone := found_eq_none_iff.mp hfound waiting hmem
      rw [hwaiting] at hdone
      cases hdone
    | some copied =>
      obtain ⟨slot, r⟩ := copied
      obtain ⟨-, hpending, rfl⟩ := of_found_eq_some hfound
      exact ⟨slot, mem_slots_of_found hfound, hpending, rfl⟩
  rests hdone := by
    rw [takePending_fst hw, found_eq_none_iff.mpr hdone]

/-! ## One scan after another -/

/-- In these shifts one worker makes scan after scan.  Between two of them anything may
happen at the desk, and to the session of the worker. -/
def Consecutive (shifts : Nat → Shift) : Prop :=
  ∀ i : Nat, (shifts (i + 1)).worker.sessionless = (takePending (shifts i)).2.worker.sessionless

variable {shifts : Nat → Shift}

/-- In every shift the worker is at its place, and has made so many scans more. -/
theorem Consecutive.moved (h : Consecutive shifts) (hw : (shifts 0).worker.slots ≠ []) (i : Nat) :
    (shifts 0).worker.Moved i (shifts i).worker := by
  induction i with
  | zero => exact ⟨rfl, rfl, (UInt64.add_zero _).symm⟩
  | succ i ih =>
    have hscan := (takePending_snd (s := shifts i) (ih.slots_eq ▸ hw)).1
    have hnext := h i
    rw [hscan] at hnext
    have hindex := congrArg Worker.index hnext
    have htable := congrArg Worker.table hnext
    have hscans := congrArg Worker.scans hnext
    refine ⟨hindex.trans ih.index_eq, htable.trans ih.table_eq, hscans.trans ?_⟩
    rw [ih.scans_eq, UInt64.add_assoc, UInt64.ofNat_add]
    rfl

/-- The place in a round comes up within every so many turns. -/
theorem exists_turn {place count : Nat} (hplace : place < count) (first : Nat) :
    ∃ i < count, (first + i) % count = place := by
  have hcount : 0 < count := Nat.zero_lt_of_lt hplace
  have hlt : first % count < count := Nat.mod_lt _ hcount
  by_cases hle : first % count ≤ place
  · refine ⟨place - first % count, by omega, ?_⟩
    rw [Nat.add_mod, Nat.mod_eq_of_lt (show place - first % count < count by omega),
      Nat.add_sub_cancel' hle, Nat.mod_eq_of_lt hplace]
  · refine ⟨count + place - first % count, by omega, ?_⟩
    rw [Nat.add_mod, Nat.mod_eq_of_lt (show count + place - first % count < count by omega),
      Nat.add_sub_cancel' (by omega), Nat.add_mod_left, Nat.mod_eq_of_lt hplace]

/-- A scan looks first at the slot at the place of its turn. -/
theorem found_of_turn {w : Worker} (slots : Nat → Slot) {place : Nat}
    (hplace : place < w.slots.length) (hturn : w.scans.toNat % w.slots.length = place)
    (hpending : (slots w.slots[place]).done = false) :
    found w slots = some (w.slots[place], (slots w.slots[place]).request) := by
  have horder : w.scanOrder =
      w.slots[place] :: (w.slots.drop (place + 1) ++ w.slots.take place) := by
    rw [Worker.scanOrder, hturn, List.drop_eq_getElem_cons hplace]
    rfl
  rw [found, horder, List.find?_cons_of_pos (by rw [hpending]; rfl)]
  rfl

/-- A slot of the worker that is pending at as many scans as the worker has slots is picked
by one of them. -/
theorem Consecutive.exists_pick (h : Consecutive shifts) {slot : Nat}
    (hslot : slot ∈ (shifts 0).worker.slots)
    (hscans : (shifts 0).worker.scans.toNat + (shifts 0).worker.slots.length < UInt64.size)
    (hpending : ∀ i < (shifts 0).worker.slots.length,
      ((shifts i).desk.host.slot (shifts 0).worker.table slot).done = false) :
    ∃ i < (shifts 0).worker.slots.length, (takePending (shifts i)).1 =
      .done (some (slot, ((shifts i).desk.host.slot (shifts 0).worker.table slot).request)) := by
  have hw : (shifts 0).worker.slots ≠ [] := List.ne_nil_of_mem hslot
  obtain ⟨place, hplace, hat⟩ := List.getElem_of_mem hslot
  obtain ⟨i, hi, hturn⟩ := exists_turn hplace (shifts 0).worker.scans.toNat
  have hmoved := h.moved hw i
  have hcount : (shifts i).worker.scans.toNat = (shifts 0).worker.scans.toNat + i := by
    simp only [UInt64.size] at hscans
    rw [hmoved.scans_eq, UInt64.toNat_add, UInt64.toNat_ofNat']
    omega
  refine ⟨i, hi, ?_⟩
  have hfirst := found_of_turn (w := (shifts i).worker)
    ((shifts i).desk.host.slot (shifts i).worker.table) (by rw [hmoved.slots_eq]; exact hplace)
    (by rw [hmoved.slots_eq, hcount]; exact hturn)
  simp only [hmoved.slots_eq, hmoved.table_eq, hat] at hfirst
  rw [takePending_fst (hmoved.slots_eq ▸ hw), hmoved.table_eq, hfirst (hpending i hi)]

/-- No scan of a worker overlooks a slot of its own, and a slot that stays pending is picked
within as many scans as there are slots, unless the count of scans wraps meanwhile. -/
structure TakesTurns (shifts : Nat → Shift) : Prop where
  scans : ∀ i : Nat, (shifts i).ScansOwn
  picks : ∀ slot ∈ (shifts 0).worker.slots,
    (shifts 0).worker.scans.toNat + (shifts 0).worker.slots.length < UInt64.size →
    (∀ i < (shifts 0).worker.slots.length,
      ((shifts i).desk.host.slot (shifts 0).worker.table slot).done = false) →
    ∃ i < (shifts 0).worker.slots.length, (takePending (shifts i)).1 =
      .done (some (slot, ((shifts i).desk.host.slot (shifts 0).worker.table slot).request))

/-- No slot starves: the workers share out the slots, and each of them takes turns at its
own. -/
theorem no_starvation {l : Layout} (hworkers : 1 ≤ l.workers) (hslots : l.workers ≤ l.slots) :
    l.SharesOut ∧
      ∀ shifts : Nat → Shift, Consecutive shifts → (shifts 0).worker.table.layout = l →
        (shifts 0).worker.index < l.workers → TakesTurns shifts := by
  have hshares := Layout.sharesOut hworkers hslots
  refine ⟨hshares, ?_⟩
  intro shifts hscans hlayout hindex
  have hw : (shifts 0).worker.slots ≠ [] := by
    rw [Worker.slots, hlayout]
    exact hshares.nonempty _ hindex
  constructor
  case scans =>
    intro i
    exact scansOwn ((hscans.moved hw i).slots_eq ▸ hw)
  case picks =>
    intro slot hslot
    exact hscans.exists_pick hslot

/-! ## Two slots that stay pending -/

/-- The table of two slots and one worker in the first segment. -/
def pair : SlotTable :=
  ⟨0, "", ⟨2, 1⟩⟩

/-- A desk where alice waits for an answer in either slot of that table. -/
def crowdedDesk : Desk :=
  (((Client.forConnection pair 7 0).claim { user := "alice" } 0 >>= fun _ =>
    (Client.forConnection pair 7 1).claim { user := "alice" } 0)
      { host :=
          { processes := ⟨1, [7]⟩
            memory := (SlotTable.attach {} "" ⟨2, 1⟩).memory } }).2

/-- The worker of that table scans again and again, and nobody answers. -/
def crowded : Nat → Shift
  | 0 => ⟨{ index := 0, table := pair, scans := 1 }, crowdedDesk⟩
  | i + 1 => (takePending (crowded i)).2

theorem crowded_run :
    (crowded 0).worker.slots = [0, 1] ∧
      ∀ i < 2, ((crowded i).desk.host.slot pair 0).done = false := by
  decide +kernel

/-- The first scan begins at the other slot, so the second one picks the first slot. -/
theorem no_starvation_crowded :
    (∀ i < 2, ((crowded i).desk.host.slot pair 0).done = false) ∧
      ∃ i < 2, (takePending (crowded i)).1 =
        .done (some (0, ((crowded i).desk.host.slot pair 0).request)) := by
  obtain ⟨hslots, hpending⟩ := crowded_run
  refine ⟨hpending, ?_⟩
  obtain ⟨-, hturns⟩ := no_starvation (l := ⟨2, 1⟩) (by decide) (by decide)
  have hpicks := (hturns crowded (fun _ => rfl) rfl (by decide)).picks 0
  rw [hslots] at hpicks
  exact hpicks (by decide) (by decide) hpending

end Shift

end Admission
