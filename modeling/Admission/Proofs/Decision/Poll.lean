import Admission.Proofs.Decision.Unplanned
import Admission.Proofs.Slot

set_option autoImplicit false

/-!
# A poll that serves a request

A poll that finds a pending request decides it and puts the decision into the slot.
Faults matter to a poll only if they strike the decision, and unless the decision
panics the poll is done.
-/

namespace Admission

open Exposed Attempt

namespace Shift

variable {s : Shift} {settings : ClientAuthSettings} {slot : Nat} {r : Request}

/-! ## Errors are answers -/

section Sure

variable {α β : Type}

/-- The attempt does not fail with an error. -/
def Sure (x : Attempt Shift α) : Prop :=
  ∀ (s : Shift) (e : BackendError), (x s).1 ≠ .failed e

theorem Sure.bind {x : Attempt Shift α} {f : α → Attempt Shift β} (hx : Sure x)
    (hf : ∀ a : α, Sure (f a)) : Sure (x >>= f) := by
  intro s
  have hs := hx s
  rw [bind_apply]
  generalize x s = result at hs
  obtain ⟨ending, s'⟩ := result
  cases ending with
  | done a => exact hf a s'
  | failed e => exact absurd rfl (hs e)
  | unwound p => rintro _ ⟨⟩

theorem sure_settle (x : Attempt Shift α) : Sure x.settle := by
  intro s
  unfold settle
  generalize x s = result
  obtain ⟨ending, s'⟩ := result
  cases ending <;> rintro _ ⟨⟩

theorem sure_openSession (database : String) : Sure (openSession database) := by
  refine Sure.bind (by rintro _ _ ⟨⟩) fun w => ?_
  split
  · rintro _ _ ⟨⟩
  · refine (sure_settle _).bind fun opened => ?_
    split <;> rintro _ _ ⟨⟩

/-- Whatever goes wrong with a session, the worker has an answer. -/
theorem sure_decide (settings : ClientAuthSettings) (r : Request) : Sure (decide settings r) := by
  cases hcheck : precheck settings r.connection with
  | skip reason => rw [decide, hcheck]; rintro _ _ ⟨⟩
  | disabled => rw [decide, hcheck]; rintro _ _ ⟨⟩
  | queue =>
    rw [decide_of_queue hcheck]
    refine (sure_openSession _).bind fun opened => ?_
    cases opened with
    | error e => rintro _ _ ⟨⟩
    | ok session =>
      refine (sure_settle _).bind fun answer => ?_
      cases answer <;> rintro _ _ ⟨⟩

end Sure

/-! ## The parts of a poll -/

/-- Decide a request that was copied, and publish the decision. -/
def serve (settings : ClientAuthSettings) (slot : Nat) (r : Request) : Attempt Shift Bool := do
  let rejection ← decide settings r
  publish slot r (rejection.map Text.singleLine)
  return true

/-- Serve what a scan found. -/
def serveFound (settings : ClientAuthSettings) : Option (Nat × Request) → Attempt Shift Bool
  | none => return false
  | some copied => serve settings copied.1 copied.2

/-- A poll is a scan, and then what was found is served. -/
theorem poll_eq (settings : ClientAuthSettings) :
    poll settings = takePending >>= serveFound settings := by
  refine congrArg (takePending >>= ·) (funext fun found => ?_)
  cases found <;> rfl

theorem steady_poll (settings : ClientAuthSettings) : (poll settings).Steady := by
  rw [poll_eq]
  refine aloof_takePending.candid.steady.bind fun found => ?_
  cases found with
  | none => exact (orderly_pure _).candid.steady
  | some copied =>
    refine (tame_decide settings _).steady.bind fun rejection => ?_
    exact ((aloof_publish _ _ _).candid.bind fun _ => (orderly_pure _).candid).steady

/-- `after` comes from `before` by a scan or a publication. -/
structure Handled (before after : Shift) : Prop where
  catalog_eq : after.desk.host.catalog = before.desk.host.catalog
  faults_eq : after.desk.host.faults = before.desk.host.faults
  session_eq : after.worker.session = before.worker.session
  table_eq : after.worker.table = before.worker.table

theorem handled_takePending (s : Shift) : Handled s (takePending s).2 := by
  unfold takePending
  rw [gets_bind_apply]
  split <;> exact ⟨rfl, rfl, rfl, rfl⟩

theorem Handled.trans {a b c : Shift} (h₁ : Handled a b) (h₂ : Handled b c) : Handled a c :=
  ⟨h₂.catalog_eq.trans h₁.catalog_eq, h₂.faults_eq.trans h₁.faults_eq,
    h₂.session_eq.trans h₁.session_eq, h₂.table_eq.trans h₁.table_eq⟩

theorem Handled.rested {database : String} {before after : Shift} (h : Handled before after)
    (hw : before.worker.Rested database) : after.worker.Rested database := by
  rw [Worker.Rested, h.session_eq]
  exact hw

theorem Handled.transactionalIn {database : String} {before after : Shift}
    (h : Handled before after) (ht : before.desk.host.catalog.TransactionalIn database) :
    after.desk.host.catalog.TransactionalIn database := by
  rw [h.catalog_eq]
  exact ht

theorem handled_publish (slot : Nat) (r : Request) (rejection : Option String) (s : Shift) :
    Handled s (publish slot r rejection s).2 := by
  obtain ⟨step, -, hpublish⟩ := publish_eq slot r rejection s
  rw [hpublish]
  refine rel_bind (R := Handled) Handled.trans (fun s => ⟨rfl, rfl, rfl, rfl⟩) (fun taken s => ?_) s
  cases taken <;> exact ⟨rfl, rfl, rfl, rfl⟩

/-- A worker that finds a request has slots. -/
theorem slots_ne_nil_of_found {w : Worker} {slots : Nat → Slot}
    (hfound : found w slots = some (slot, r)) : w.slots ≠ [] :=
  List.ne_nil_of_mem (mem_slots_of_found hfound)

/-- A poll that finds a request serves it. -/
theorem poll_of_found (settings : ClientAuthSettings) (hm : s.desk.host.Maps s.worker.table)
    (hfound : found s.worker (s.desk.host.slot s.worker.table) = some (slot, r)) :
    poll settings s = serve settings slot r (takePending s).2 ∧
      Host.Rewrites s.worker.table (s.desk.host.slot s.worker.table) s.desk.host
        (takePending s).2.desk.host := by
  obtain ⟨scanned, hrun, -, hleft⟩ := takePending_spec hm (slots_ne_nil_of_found hfound)
  rw [hfound] at hrun
  rw [hrun]
  refine ⟨?_, hleft⟩
  rw [poll_eq, bind_of_done hrun]
  rfl

/-- The slot holds this request, and nobody has answered it. -/
structure Pending (s : Shift) (slot : Nat) (r : Request) : Prop where
  maps : s.desk.host.Maps s.worker.table
  slot_lt : slot < s.worker.table.layout.slots
  not_done : (s.desk.host.slot s.worker.table slot).done = false
  request_eq : (s.desk.host.slot s.worker.table slot).request = r

/-- A scan changes nothing about a request. -/
theorem Pending.after_scan {before after : Shift} (h : Pending before slot r)
    (hhandled : Handled before after)
    (hscan : Host.Rewrites before.worker.table (before.desk.host.slot before.worker.table)
      before.desk.host after.desk.host) : Pending after slot r := by
  obtain ⟨hmaps, hslot, hdone, hrequest⟩ := h
  constructor <;> rw [hhandled.table_eq]
  · exact hscan.maps hmaps
  · exact hslot
  · rw [hscan.slot_eq]
    exact hdone
  · rw [hscan.slot_eq]
    exact hrequest

/-- Serving is done when the decision is: the slot holds the answer then, folded onto one
line, and the rest is as the decision left it. -/
theorem serve_of_done {decided : Shift} {rejection : Option String} (hpending : Pending s slot r)
    (hrun : decide settings r s = (.done rejection, decided))
    (hdecided : Decided s (.done rejection) decided) :
    ∃ after : Shift, serve settings slot r s = (.done true, after) ∧ Handled decided after ∧
      Host.Rewrites s.worker.table
        (Function.update (s.desk.host.slot s.worker.table) slot
          { (s.desk.host.slot s.worker.table slot).setResult (rejection.map Text.singleLine) with
            done := true })
        s.desk.host after.desk.host := by
  obtain ⟨hm, hslot, hdone, rfl⟩ := hpending
  obtain ⟨_, _, _, _, hhost⟩ := hdecided.host_eq
  have htable : decided.worker.table = s.worker.table := by rw [hdecided.worker_eq]
  have hkept : Host.Rewrites s.worker.table (s.desk.host.slot s.worker.table) s.desk.host
      decided.desk.host := by
    rw [hhost]
    exact ⟨rfl, rfl, rfl⟩
  have hanswer : (s.desk.host.slot s.worker.table slot).answer?
      (s.desk.host.slot s.worker.table slot).request (rejection.map Text.singleLine) = some _ :=
    Slot.answer?_eq_some_iff.mpr ⟨rfl, hdone, rfl⟩
  obtain ⟨after, hpublish, -, hleft⟩ := publish_spec (s := decided)
    (by rw [htable]; exact hkept.maps hm) (show slot < _ by rw [htable]; exact hslot)
    (s.desk.host.slot s.worker.table slot).request (rejection.map Text.singleLine)
  rw [htable, hkept.slot_eq, hanswer] at hleft
  have hhandled := handled_publish slot (s.desk.host.slot s.worker.table slot).request
    (rejection.map Text.singleLine) decided
  rw [hpublish] at hhandled
  refine ⟨after, ?_, hhandled, hkept.trans hleft⟩
  unfold serve
  rw [bind_of_done hrun, bind_of_done hpublish]
  rfl

/-! ## What a poll leaves -/

/-- The poll is done: the slot holds this answer, folded onto one line, and no other slot
has changed. -/
structure Answered (settings : ClientAuthSettings) (s : Shift) (slot : Nat)
    (answer : Option String) : Prop where
  done : (poll settings s).1 = .done true
  slot_eq : (poll settings s).2.desk.host.slot s.worker.table =
    Function.update (s.desk.host.slot s.worker.table) slot
      { (s.desk.host.slot s.worker.table slot).setResult (answer.map Text.singleLine) with
        done := true }

/-- The slot of the request holds the answer as far as it fits. -/
theorem Answered.result?_eq {answer : Option String} (h : Answered settings s slot answer) :
    ((poll settings s).2.desk.host.slot s.worker.table slot).done = true ∧
      ((poll settings s).2.desk.host.slot s.worker.table slot).result? =
        Slot.kept (answer.map Text.singleLine) := by
  rw [h.slot_eq, Function.update_self]
  exact ⟨rfl, Slot.result?_setResult _ _⟩

/-- A decision that does not panic is done. -/
theorem decide_done (settings : ClientAuthSettings) (r : Request) (p : Shift)
    (h : ∀ payload : PanicPayload, (decide settings r p).1 ≠ .unwound payload) :
    ∃ (rejection : Option String) (decided : Shift),
      decide settings r p = (.done rejection, decided) := by
  have hsure := sure_decide settings r p
  generalize decide settings r p = result at h hsure
  obtain ⟨ending, decided⟩ := result
  cases ending with
  | done rejection => exact ⟨rejection, decided, rfl⟩
  | failed e => exact absurd rfl (hsure e)
  | unwound payload => exact absurd rfl (h payload)

/-- Errors are answers: where only those are planned, the decision after a scan is done. -/
theorem decide_done_of_errorsOnly (settings : ClientAuthSettings) (r : Request)
    (herrors : s.desk.host.faults.ErrorsOnly) :
    ∃ (rejection : Option String) (decided : Shift),
      decide settings r (takePending s).2 = (.done rejection, decided) := by
  rw [← (handled_takePending s).faults_eq] at herrors
  exact decide_done settings r _ ((tame_decide settings r).mild _ herrors)

section Polls

variable (hm : s.desk.host.Maps s.worker.table)
  (hfound : found s.worker (s.desk.host.slot s.worker.table) = some (slot, r))
  (hw : s.worker.Rested settings.database)
  (ht : s.desk.host.catalog.TransactionalIn settings.database)

include hw ht

theorem decided_of_scan (r : Request) :
    Decided (takePending s).2 (decide settings r (takePending s).2).1
      (decide settings r (takePending s).2).2 := by
  have hhandled := handled_takePending s
  exact decided_decide settings r (hhandled.rested hw) (hhandled.transactionalIn ht)

include hm hfound

/-- A poll that finds a request decides it after its scan, and where that is done it
answers. -/
theorem poll_answers {rejection : Option String} {decided : Shift}
    (hrun : decide settings r (takePending s).2 = (.done rejection, decided)) :
    Answered settings s slot rejection ∧ Handled decided (poll settings s).2 := by
  have hhandled := handled_takePending s
  have hdecided := decided_of_scan hw ht r
  obtain ⟨hpoll, hscan⟩ := poll_of_found settings hm hfound
  obtain ⟨hslot, hdone, hrequest⟩ := of_found_eq_some hfound
  have hpending : Pending (takePending s).2 slot r :=
    Pending.after_scan ⟨hm, hslot, hdone, hrequest.symm⟩ hhandled hscan
  rw [hrun] at hdecided
  obtain ⟨after, hserve, hafter, hleft⟩ := serve_of_done hpending hrun hdecided
  rw [hhandled.table_eq, hscan.slot_eq] at hleft
  rw [hserve] at hpoll
  refine ⟨⟨by rw [hpoll], ?_⟩, ?_⟩
  · rw [hpoll]
    exact hleft.slot_eq
  · rw [hpoll]
    exact hafter

/-- Where no fault is planned, a worker at rest answers what is ruled. -/
theorem answered_of_unplanned (hf : s.desk.host.faults = .none) :
    ∃ answer : Option String, Answered settings s slot answer ∧
      Ruled settings.database
        (settings.ruling s.desk.host.catalog (s.worker.missing settings.database) r.connection
          r.status)
        s.desk.host.catalog (.done answer) (poll settings s).2.desk.host.catalog := by
  have hhandled := handled_takePending s
  have hruled := decide_of_unplanned settings r (s := (takePending s).2)
    (hhandled.faults_eq.trans hf) (hhandled.rested hw) (hhandled.transactionalIn ht)
  obtain ⟨answer, hanswer, htold⟩ := hruled.told
  obtain ⟨rejection, decided, hrun⟩ := decide_done settings r (takePending s).2
    fun payload hunwound => by rw [hunwound] at hanswer; cases hanswer
  obtain ⟨hanswered, hleft⟩ := poll_answers hm hfound hw ht hrun
  rw [hrun, hhandled.catalog_eq, Worker.missing, hhandled.session_eq] at hruled
  refine ⟨rejection, hanswered, hruled.told, hruled.answer?_of_present, fun other => ?_⟩
  rw [hleft.catalog_eq]
  exact hruled.committed?_eq other

/-- A fault that is planned and does not strike the poll makes no difference to it. -/
theorem answered_of_spared (hspared : ¬ (poll settings).Struck s) :
    ∃ answer : Option String, Answered settings s slot answer ∧
      Ruled settings.database
        (settings.ruling s.desk.host.catalog (s.worker.missing settings.database) r.connection
          r.status)
        s.desk.host.catalog (.done answer) (poll settings s).2.desk.host.catalog := by
  have hrun := ((steady_poll settings).spared hspared).cleared_eq
  obtain ⟨answer, hanswered, hruled⟩ :=
    answered_of_unplanned (s := cleared s) ⟨hm.mapped, hm.valid⟩ hfound hw ht
      (faults_cleared s.desk.host)
  obtain ⟨hdone, hslots⟩ := hanswered
  rw [hrun] at hdone hslots hruled
  exact ⟨answer, ⟨hdone, hslots⟩, hruled⟩

/-- When a fault strikes a poll whose decision is done, it answers with a rejection, and no
value changes. -/
theorem answered_of_struck {rejection : Option String} {decided : Shift}
    (hrun : decide settings r (takePending s).2 = (.done rejection, decided))
    (hstruck : (poll settings).Struck s) :
    ∃ reason : String, Answered settings s slot (some reason) ∧
      (poll settings s).2.desk.host.catalog.committed? = s.desk.host.catalog.committed? := by
  have hhandled := handled_takePending s
  have hdecided := decided_of_scan hw ht r
  obtain ⟨hanswered, hleft⟩ := poll_answers hm hfound hw ht hrun
  rw [hrun] at hdecided
  -- The scan and the publication take no threat away, so the fault struck the decision.
  have hfewer : threats decided < threats (takePending s).2 := by
    have hbefore : threats (takePending s).2 = threats s :=
      congrArg FaultPlan.threats hhandled.faults_eq
    have hafter : threats (poll settings s).2 = threats decided :=
      congrArg FaultPlan.threats hleft.faults_eq
    rw [hbefore, ← hafter]
    exact hstruck
  obtain ⟨hrejected, hkept⟩ := hdecided.fails_closed hfewer
  obtain ⟨reason, rfl⟩ := Option.ne_none_iff_exists'.mp (hrejected rejection rfl)
  exact ⟨reason, hanswered, by rw [hleft.catalog_eq, hkept, hhandled.catalog_eq]⟩

end Polls

end Shift

end Admission
