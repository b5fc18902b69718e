import Admission.Proofs.Desk
import Admission.Worker

set_option autoImplicit false

/-!
# What the steps of a worker do

A scan changes no slot and copies the first pending request of those it looks at.
A publication rewrites the one slot, and only if the slot takes the answer.
-/

namespace Admission

namespace Worker

/-- The next scan looks at the slots the worker serves. -/
theorem mem_scanOrder {w : Worker} {slot : Nat} : slot ∈ w.scanOrder ↔ slot ∈ w.slots := by
  have h := List.take_append_drop (w.scans.toNat % w.slots.length) w.slots
  rw [scanOrder, List.mem_append, or_comm, ← List.mem_append, h]

theorem length_slots_le (w : Worker) : w.slots.length ≤ w.table.layout.slots := by
  have hfilter : w.slots.length ≤ (List.range w.table.layout.slots).length :=
    List.length_filter_le _ _
  rwa [List.length_range] at hfilter

theorem lt_of_mem_slots {w : Worker} {slot : Nat} (h : slot ∈ w.slots) :
    slot < w.table.layout.slots :=
  (Layout.mem_slotsOfWorker.mp h).1

/-- The worker without its session. -/
def sessionless (w : Worker) : Worker :=
  { w with session := none }

end Worker

namespace Shift

variable {s : Shift}

/-- What a step at the desk yields, it yields to the shift. -/
theorem atDesk_of_yields {α : Type} {t : SlotTable} {x : Attempt Desk α} {a : α}
    {slots : Nat → Slot} (h : Desk.Yields t x s.desk a slots) :
    ∃ d : Desk, atDesk x s = (.done a, { s with desk := d }) ∧
      Host.Rewrites t slots s.desk.host d.host := by
  obtain ⟨d, hrun, hleft⟩ := h
  exact ⟨d, by rw [atDesk, Attempt.onPart_apply, hrun], hleft⟩

/-- What a scan finds in these slots. -/
def found (w : Worker) (slots : Nat → Slot) : Option (Nat × Request) :=
  (w.scanOrder.find? fun i => !(slots i).done).map fun i => (i, (slots i).request)

/-- A scan finds a slot of the worker. -/
theorem mem_slots_of_found {w : Worker} {slots : Nat → Slot} {slot : Nat} {r : Request}
    (h : found w slots = some (slot, r)) : slot ∈ w.slots := by
  unfold found at h
  obtain ⟨i, hi, heq⟩ := Option.map_eq_some_iff.mp h
  cases heq
  exact Worker.mem_scanOrder.mp (List.mem_of_find?_eq_some hi)

/-- A scan finds a pending slot and copies the request in it. -/
theorem of_found_eq_some {w : Worker} {slots : Nat → Slot} {slot : Nat} {r : Request}
    (h : found w slots = some (slot, r)) :
    slot < w.table.layout.slots ∧ (slots slot).done = false ∧ r = (slots slot).request := by
  refine ⟨Worker.lt_of_mem_slots (mem_slots_of_found h), ?_⟩
  unfold found at h
  obtain ⟨i, hi, heq⟩ := Option.map_eq_some_iff.mp h
  cases heq
  have hdone := List.find?_some hi
  exact ⟨by simpa using hdone, rfl⟩

/-- A scan of a worker with slots. -/
theorem takePending_spec (hm : s.desk.host.Maps s.worker.table) (hw : s.worker.slots ≠ []) :
    ∃ s' : Shift, takePending s =
        (.done (found s.worker (s.desk.host.slot s.worker.table)), s') ∧
      s'.worker = { s.worker with scans := s.worker.scans + 1 } ∧
      Host.Rewrites s.worker.table (s.desk.host.slot s.worker.table) s.desk.host s'.desk.host := by
  obtain ⟨r, hr, hres, hleft⟩ := Host.locked_spec hm fun r : Region =>
    ((s.worker.nextPending? r).map fun slot => (slot, (r.slot slot).request), r)
  simp only [Worker.nextPending?, hr] at hres hleft
  refine ⟨⟨{ s.worker with scans := s.worker.scans + 1 }, { s.desk with host := _ }⟩,
    ?_, rfl, hleft⟩
  unfold takePending
  rw [Attempt.gets_bind_apply, if_neg hw, Attempt.modify_bind_apply]
  exact Prod.ext (congrArg Ending.done hres) rfl

/-- A scan is one section under the lock, and counts. -/
theorem takePending_snd (hw : s.worker.slots ≠ []) :
    (takePending s).2.worker = { s.worker with scans := s.worker.scans + 1 } ∧
      (takePending s).2.desk.host =
        (s.desk.host.locked s.worker.table fun r =>
          ((s.worker.nextPending? r).map fun slot => (slot, (r.slot slot).request), r)).2 := by
  unfold takePending
  rw [Attempt.gets_bind_apply, if_neg hw, Attempt.modify_bind_apply]
  exact ⟨rfl, rfl⟩

/-- A worker without slots panics and leaves everything as it was. -/
theorem takePending_without_slots (hw : s.worker.slots = []) :
    takePending s = (.unwound (.text "a worker without slots has nothing to scan"), s) := by
  unfold takePending
  rw [Attempt.gets_bind_apply, if_pos hw]
  rfl

/-! ## Staying at the table -/

/-- However the step ends, nothing about the worker is new but its session. -/
def Stays {α : Type} (x : Attempt Shift α) : Prop :=
  ∀ s : Shift, (x s).2.worker.sessionless = s.worker.sessionless

section Stays

variable {α β : Type}

theorem Stays.table_eq {x : Attempt Shift α} (hx : Stays x) (s : Shift) :
    (x s).2.worker.table = s.worker.table := by
  have hplace := congrArg Worker.table (hx s)
  exact hplace

theorem stays_pure (a : α) : Stays (pure a) :=
  fun _ => rfl

theorem stays_gets (f : Shift → α) : Stays (Attempt.gets f) :=
  fun _ => rfl

theorem stays_atDesk (x : Attempt Desk α) : Stays (atDesk x) :=
  fun _ => rfl

theorem Stays.bind {x : Attempt Shift α} {f : α → Attempt Shift β} (hx : Stays x)
    (hf : ∀ a : α, Stays (f a)) : Stays (x >>= f) :=
  Attempt.kept_bind (fun s : Shift => s.worker.sessionless) hx hf

theorem Stays.settle {x : Attempt Shift α} (hx : Stays x) : Stays x.settle := by
  intro s
  rw [Attempt.settle_snd]
  exact hx s

theorem stays_openSession (database : String) : Stays (openSession database) := by
  intro s
  unfold openSession
  rw [Attempt.gets_bind_apply]
  cases s.worker.session with
  | some session => rfl
  | none =>
    refine Stays.bind (stays_atDesk _).settle ?_ s
    rintro (e | session)
    · exact (stays_atDesk _).bind fun _ => stays_pure _
    · exact (stays_atDesk _).bind fun _ => stays_pure _

theorem stays_useSession (session : Session) (mode : Mode) (r : Request) :
    Stays (useSession session mode r) := by
  intro s
  unfold useSession
  dsimp only
  split <;> rfl

/-- Deciding a request leaves the worker at its place. -/
theorem stays_decide (settings : ClientAuthSettings) (r : Request) :
    Stays (decide settings r) := by
  have hcount : Stays (do atDesk (Desk.count .workerBypassed); return none :
      Attempt Shift (Option String)) :=
    (stays_atDesk _).bind fun _ => stays_pure _
  unfold decide
  cases precheck settings r.connection with
  | skip reason => exact hcount
  | disabled => exact hcount
  | queue =>
    refine (stays_openSession _).bind ?_
    rintro (e | session)
    · exact stays_pure _
    · refine (stays_useSession session settings.mode r).settle.bind ?_
      rintro (e | rejection)
      · exact (stays_gets _).bind fun _ => (stays_atDesk _).bind fun _ => stays_pure _
      · exact stays_pure _

/-- So does publishing an answer. -/
theorem stays_publish (slot : Nat) (r : Request) (rejection : Option String) :
    Stays (publish slot r rejection) := by
  refine (stays_gets _).bind fun w => (stays_atDesk _).bind fun answered => ?_
  split <;> exact stays_atDesk _

end Stays

/-! ## Publishing -/

/-- What a worker does once it has published: wake those who wait, or log that the
answer was stale. -/
def signOff (w : Worker) (slot : Nat) (taken : Bool) : Attempt Shift Unit :=
  if taken then
    atDesk (Desk.signal w.table fun region => (region.wakeAnswered slot).wakeFreed slot)
  else
    atDesk <| Desk.say .debug
      s!"[WORKER] Worker {w.index} dropping stale result for slot {slot}"

theorem signOff_spec (hm : s.desk.host.Maps s.worker.table) (slot : Nat) (taken : Bool) :
    ∃ d : Desk, signOff s.worker slot taken s = (.done (), { s with desk := d }) ∧
      Host.Rewrites s.worker.table (s.desk.host.slot s.worker.table) s.desk.host d.host := by
  cases taken with
  | true => exact atDesk_of_yields (Desk.quiet_signal (fun r i => by simp) s.desk hm)
  | false => exact atDesk_of_yields (Desk.quiet_say _ _ _ s.desk hm)

/-- A publication is a step on the slot and a report about it. -/
theorem publish_eq (slot : Nat) (r : Request) (rejection : Option String) (s : Shift) :
    ∃ step : Slot → Bool × Slot,
      (∀ s : Slot, step s = ((s.answer? r rejection).isSome, (s.answer? r rejection).getD s)) ∧
      publish slot r rejection s =
        (atDesk (Desk.onHost (Host.withSlot s.worker.table slot step)) >>=
          signOff s.worker slot) s := by
  refine ⟨_, fun s => ?_, rfl⟩
  cases s.answer? r rejection <;> rfl

/-- A publication puts the answer into the slot if the slot takes it. -/
theorem publish_spec (hm : s.desk.host.Maps s.worker.table) {slot : Nat}
    (hs : slot < s.worker.table.layout.slots) (r : Request) (rejection : Option String) :
    ∃ s' : Shift, publish slot r rejection s = (.done (), s') ∧ s'.worker = s.worker ∧
      Host.Rewrites s.worker.table
        (Function.update (s.desk.host.slot s.worker.table) slot
          (((s.desk.host.slot s.worker.table slot).answer? r rejection).getD
            (s.desk.host.slot s.worker.table slot)))
        s.desk.host s'.desk.host := by
  obtain ⟨step, hstep, hpublish⟩ := publish_eq slot r rejection s
  obtain ⟨d₁, hrun, hleft⟩ := atDesk_of_yields (s := s) (Desk.yields_withSlot hm hs step)
  rw [hstep] at hrun hleft
  obtain ⟨d₂, hrun₂, hleft₂⟩ := signOff_spec (s := { s with desk := d₁ }) (hleft.maps hm) slot _
  refine ⟨{ s with desk := d₂ }, ?_, rfl, hleft.keep hleft₂⟩
  rw [hpublish, Attempt.bind_of_done hrun]
  exact hrun₂

end Shift

end Admission
