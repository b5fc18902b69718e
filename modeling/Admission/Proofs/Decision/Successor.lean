import Admission.Post
import Admission.Proofs.Decision.Crash
import Admission.Proofs.Rotation

set_option autoImplicit false

/-!
# The worker after a panic

A worker that panics is replaced by a new one at its place, which knows nothing of the
request.  But that is still pending, and every scan begins one slot further than the one
before: the new worker comes to it within as many polls as it has slots, and answers what
would have been answered without the panic.  Only a worker that still held a session on a
database that is gone would have given another reason.
-/

namespace Admission

open Exposed Attempt

/-! ## A new worker -/

/-- A new worker at the place of another. -/
def Worker.successor (w : Worker) : Worker :=
  { index := w.index, table := w.table }

/-- The worker is at the place of another, and has counted so many scans. -/
structure Worker.Follows (old : Worker) (scans : Nat) (w : Worker) : Prop where
  index_eq : w.index = old.index
  table_eq : w.table = old.table
  scans_eq : w.scans = .ofNat scans

theorem Worker.Follows.slots_eq {old w : Worker} {scans : Nat} (h : Follows old scans w) :
    w.slots = old.slots := by
  rw [slots, h.table_eq, h.index_eq]
  rfl

/-- A post whose worker panics gets a new one. -/
theorem Post.poll_of_unwound {settings : ClientAuthSettings} {p : Post} {d : Desk}
    (hdue : p.isDue d.host = true)
    (hunwound : ∃ payload : PanicPayload,
      (Shift.poll settings ⟨p.worker, d⟩).1 = .unwound payload) :
    (p.poll settings d).1.2.worker = p.worker.successor ∧
      (p.poll settings d).2.host = (Shift.poll settings ⟨p.worker, d⟩).2.desk.host := by
  obtain ⟨payload, hunwound⟩ := hunwound
  unfold Post.poll
  rw [if_pos hdue]
  generalize Shift.poll settings ⟨p.worker, d⟩ = result at hunwound
  obtain ⟨ending, s⟩ := result
  cases hunwound
  exact ⟨rfl, rfl⟩

/-- The worker after its first polls, one at each of these desks. -/
def Worker.polled (settings : ClientAuthSettings) (desks : Nat → Desk) (w : Worker) : Nat → Worker
  | 0 => w
  | i + 1 => (Shift.poll settings ⟨w.polled settings desks i, desks i⟩).2.worker

namespace Shift

variable {s : Shift} {settings : ClientAuthSettings} {slot : Nat} {r : Request}
  {desks : Nat → Desk}

/-- A poll leaves the worker as its scan does, but for the session. -/
theorem sessionless_poll (settings : ClientAuthSettings) (s : Shift) :
    (poll settings s).2.worker.sessionless = (takePending s).2.worker.sessionless := by
  have hserve (found : Option (Nat × Request)) : Stays (serveFound settings found) := by
    cases found with
    | none => exact stays_pure false
    | some copied =>
      exact (stays_decide settings copied.2).bind fun rejection =>
        (stays_publish _ _ _).bind fun _ => stays_pure true
  have hafter := Keeps.after_bind (g := fun s : Shift => s.worker.sessionless) hserve takePending s
  rw [← poll_eq] at hafter
  exact hafter

/-- The new worker, when it comes to its next poll after so many. -/
def retry (settings : ClientAuthSettings) (s : Shift) (desks : Nat → Desk) (i : Nat) : Shift :=
  ⟨s.worker.successor.polled settings desks i, desks i⟩

theorem seasoned_retry (settings : ClientAuthSettings) (s : Shift) (desks : Nat → Desk) (i : Nat) :
    (s.retry settings desks i).worker.Seasoned settings.database := by
  induction i with
  | zero => exact .new s.worker.index s.worker.table
  | succ i ih => exact .poll rfl ih

theorem threats_retry (settings : ClientAuthSettings) (s : Shift) (desks : Nat → Desk) (i : Nat) :
    threats (s.retry settings desks i) = threats (desks i) := rfl

/-- The polls of the new worker scan one after the other. -/
theorem consecutive_retry (settings : ClientAuthSettings) (s : Shift) (desks : Nat → Desk) :
    Consecutive (s.retry settings desks) :=
  fun i => sessionless_poll settings (s.retry settings desks i)

/-- The new worker is at the place of the other, and counts its scans from none. -/
theorem follows_retry (settings : ClientAuthSettings) (desks : Nat → Desk)
    (hslots : s.worker.slots ≠ []) (i : Nat) :
    Worker.Follows s.worker i (s.retry settings desks i).worker := by
  have hmoved := (consecutive_retry settings s desks).moved hslots i
  exact ⟨hmoved.index_eq, hmoved.table_eq, hmoved.scans_eq.trans (UInt64.zero_add _)⟩

/-! ## Coming to a slot -/

/-- A poll that does not come to a slot leaves it alone. -/
theorem slot_of_poll_elsewhere (settings : ClientAuthSettings) (slot : Nat)
    (hm : s.desk.host.Maps s.worker.table)
    (hslots : s.worker.slots ≠ []) (hw : s.worker.Rested settings.database)
    (ht : s.desk.host.catalog.TransactionalIn settings.database)
    (hspared : ¬ (poll settings).Struck s)
    (helsewhere : ∀ r : Request,
      found s.worker (s.desk.host.slot s.worker.table) ≠ some (slot, r)) :
    (poll settings s).2.desk.host.slot s.worker.table slot =
      s.desk.host.slot s.worker.table slot := by
  cases hfound : found s.worker (s.desk.host.slot s.worker.table) with
  | none =>
    obtain ⟨scanned, hrun, -, hleft⟩ := takePending_spec hm hslots
    rw [hfound] at hrun
    have hpoll : poll settings s = (.done false, scanned) := by
      rw [poll_eq, bind_of_done hrun]
      rfl
    rw [hpoll, hleft.slot_eq]
  | some copied =>
    obtain ⟨other, r⟩ := copied
    have hother : slot ≠ other := by
      rintro rfl
      exact helsewhere r hfound
    obtain ⟨answer, hanswered, -⟩ := answered_of_spared hm hfound hw ht hspared
    rw [hanswered.slot_eq, Function.update_of_ne hother]

/-- The first polls of the new worker meet no fault, and between them the slot stays as the
panic, or the last of them, left it.  All else that happens meanwhile is open. -/
structure Tended (settings : ClientAuthSettings) (s : Shift) (slot : Nat)
    (desks : Nat → Desk) : Prop where
  maps : ∀ i < s.worker.slots.length, (desks i).host.Maps s.worker.table
  transactional : ∀ i < s.worker.slots.length,
    (desks i).host.catalog.TransactionalIn settings.database
  spared : ∀ i < s.worker.slots.length, ¬ (poll settings).Struck (s.retry settings desks i)
  left : (desks 0).host.slot s.worker.table slot =
    (poll settings s).2.desk.host.slot s.worker.table slot
  kept : ∀ i, i + 1 < s.worker.slots.length →
    (desks (i + 1)).host.slot s.worker.table slot =
      (poll settings (s.retry settings desks i)).2.desk.host.slot s.worker.table slot

/-- The new worker's poll after so many finds the request, which is as it was. -/
structure Returns (settings : ClientAuthSettings) (s : Shift) (slot : Nat) (r : Request)
    (desks : Nat → Desk) (i : Nat) : Prop where
  found : found (s.retry settings desks i).worker ((desks i).host.slot s.worker.table) =
    some (slot, r)
  slot_eq : (desks i).host.slot s.worker.table slot = s.desk.host.slot s.worker.table slot

section Tended

variable (htended : s.Tended settings slot desks)
  (hundone : Undone s (poll settings s).2)
  (hfound : Shift.found s.worker (s.desk.host.slot s.worker.table) = some (slot, r))

include htended hundone hfound

/-- Until the new worker comes to the slot, that is as it was. -/
theorem returns_or_kept {i : Nat} (hi : i < s.worker.slots.length) :
    (∃ j < i, Returns settings s slot r desks j) ∨
      (desks i).host.slot s.worker.table slot = s.desk.host.slot s.worker.table slot := by
  have hslots := slots_ne_nil_of_found hfound
  induction i with
  | zero =>
    refine .inr (htended.left.trans ?_)
    rw [hundone.slot_eq]
  | succ i ih =>
    have hlt : i < s.worker.slots.length := Nat.lt_of_succ_lt hi
    obtain ⟨j, hj, hreturns⟩ | hslot := ih hlt
    · exact .inl ⟨j, Nat.lt_succ_of_lt hj, hreturns⟩
    by_cases hhere : ∃ r' : Request, Shift.found (s.retry settings desks i).worker
        ((desks i).host.slot s.worker.table) = some (slot, r')
    · obtain ⟨r', hhere⟩ := hhere
      obtain ⟨-, -, rfl⟩ := of_found_eq_some hhere
      obtain ⟨-, -, rfl⟩ := of_found_eq_some hfound
      rw [hslot] at hhere
      exact .inl ⟨i, Nat.lt_succ_self i, hhere, hslot⟩
    · have hfollows := follows_retry settings desks hslots i
      have htable := hfollows.table_eq
      have hpoll := slot_of_poll_elsewhere (s := s.retry settings desks i) settings slot
        (by rw [htable]; exact htended.maps i hlt)
        (by rw [hfollows.slots_eq]; exact hslots) (seasoned_retry settings s desks i).rested
        (htended.transactional i hlt) (htended.spared i hlt)
        (by rw [htable]; exact fun r' hr' => hhere ⟨r', hr'⟩)
      rw [htable] at hpoll
      exact .inr ((htended.kept i hi).trans (hpoll.trans hslot))

/-- The new worker comes to the slot within as many polls as it has slots. -/
theorem exists_returns : ∃ i < s.worker.slots.length, Returns settings s slot r desks i := by
  have hslots := slots_ne_nil_of_found hfound
  obtain ⟨k, hk, hturn⟩ := List.getElem_of_mem (mem_slots_of_found hfound)
  obtain ⟨i, hi, hreturns⟩ | hkept := returns_or_kept htended hundone hfound hk
  · exact ⟨i, Nat.lt_trans hi hk, hreturns⟩
  obtain ⟨-, hdone, rfl⟩ := of_found_eq_some hfound
  -- At its turn, if not before, the slot is what the scan looks at first.
  have hfollows := follows_retry settings desks hslots k
  have hbound : k < UInt64.size := by
    have hslots := s.worker.length_slots_le
    have hvalid := (htended.maps k hk).valid.2.2
    unfold maxSlots at hvalid
    unfold UInt64.size
    omega
  have hscans : (s.retry settings desks k).worker.scans.toNat = k := by
    rw [hfollows.scans_eq]
    exact UInt64.toNat_ofNat_of_lt hbound
  have hfirst := found_of_turn (w := (s.retry settings desks k).worker)
    ((desks k).host.slot s.worker.table) (by rw [hfollows.slots_eq]; exact hk)
    (by rw [hfollows.slots_eq, hscans, Nat.mod_eq_of_lt hk])
  simp only [hfollows.slots_eq, hturn, hkept] at hfirst
  exact ⟨k, hk, hfirst hdone, hkept⟩

end Tended

/-! ## The answer -/

/-- What a poll that no fault strikes puts into the slot of the request. -/
theorem slot_of_spared (settings : ClientAuthSettings) (hm : s.desk.host.Maps s.worker.table)
    (hfound : found s.worker (s.desk.host.slot s.worker.table) = some (slot, r))
    (hw : s.worker.Rested settings.database)
    (ht : s.desk.host.catalog.TransactionalIn settings.database)
    (hspared : ¬ (poll settings).Struck s) :
    (poll settings s).1 = .done true ∧
      (poll settings s).2.desk.host.slot s.worker.table slot =
        { (s.desk.host.slot s.worker.table slot).setResult
            (settings.ruling s.desk.host.catalog (s.worker.missing settings.database)
              r.connection r.status).1.folded with done := true } := by
  obtain ⟨answer, hanswered, hruled⟩ := answered_of_spared hm hfound hw ht hspared
  obtain ⟨_, hanswer, htold⟩ := hruled.told
  cases hanswer
  refine ⟨hanswered.done, ?_⟩
  rw [hanswered.slot_eq, Function.update_self, htold]

/-- Whether a request is rejected does not depend on what there is to say about a missing
database. -/
theorem rejects_of_missing (settings : ClientAuthSettings) (catalog : Catalog) (c : Connection)
    (status : Int32) (missing missing' : String) :
    (settings.ruling catalog missing c status).1.folded = none ↔
      (settings.ruling catalog missing' c status).1.folded = none := by
  unfold ClientAuthSettings.ruling
  split
  · exact Iff.rfl
  · cases catalog.databases.get? settings.database with
    | none => exact iff_of_false (Option.some_ne_none _) (Option.some_ne_none _)
    | some db => exact Iff.rfl

/-- A worker that holds no session gets none where the database is missing. -/
theorem worker_of_missing (hf : s.desk.host.faults = .none) (hheld : s.worker.session = none)
    (hdb : s.desk.host.catalog.databases.get? settings.database = none) (r : Request) :
    (decide settings r s).2.worker = s.worker := by
  cases hcheck : precheck settings r.connection with
  | skip reason => rw [decide, hcheck]; rfl
  | disabled => rw [decide, hcheck]; rfl
  | queue =>
    obtain ⟨log, hdecided⟩ := decide_of_missing hcheck hf hheld hdb
    rw [hdecided]

theorem session_of_missing (settings : ClientAuthSettings) (hf : s.desk.host.faults = .none)
    (hheld : s.worker.session = none)
    (hdb : s.desk.host.catalog.databases.get? settings.database = none) :
    (poll settings s).2.worker.session = none := by
  have hhandled := handled_takePending s
  rw [poll_eq, bind_apply]
  generalize takePending s = scan at hhandled
  obtain ⟨ending, scanned⟩ := scan
  have hkept : scanned.worker.session = none := hhandled.session_eq.trans hheld
  cases ending with
  | failed e => exact hkept
  | unwound p => exact hkept
  | done found =>
    cases found with
    | none => exact hkept
    | some copied =>
      have hpublish (rejection : Option String) : Keeps (fun s : Shift => s.worker.session) (do
          publish copied.1 copied.2 (rejection.map Text.singleLine)
          return true : Attempt Shift Bool) :=
        Keeps.bind (fun s => (handled_publish _ _ _ s).session_eq) fun _ => keeps_pure true
      have hdecide := Keeps.after_bind (g := fun s : Shift => s.worker.session) hpublish
        (decide settings copied.2) scanned
      refine Eq.trans hdecide ?_
      rw [worker_of_missing (hhandled.faults_eq.trans hf) hkept (hhandled.catalog_eq ▸ hdb)]
      exact hkept

/-- The new worker holds no session as long as the database is missing. -/
theorem session_retry {i : Nat}
    (hspared : ∀ j < i, ¬ (poll settings).Struck (s.retry settings desks j))
    (hdb : ∀ j < i, (desks j).host.catalog.databases.get? settings.database = none) :
    (s.retry settings desks i).worker.session = none := by
  induction i with
  | zero => rfl
  | succ i ih =>
    have hheld := ih (fun j hj => hspared j (Nat.lt_succ_of_lt hj))
      fun j hj => hdb j (Nat.lt_succ_of_lt hj)
    have hpoll := session_of_missing (s := cleared (s.retry settings desks i)) settings
      (faults_cleared (desks i).host) hheld (hdb i (Nat.lt_succ_self i))
    rw [((steady_poll settings).spared (hspared i (Nat.lt_succ_self i))).cleared_eq] at hpoll
    exact hpoll

/-- The new worker's poll after so many answers the request.  As long as the catalog is the
same, it answers what a poll without any fault would have answered instead of the panic;
where the database is missing, and the worker that panicked held a session on it, the
reason of the rejection may be another. -/
structure Resumes (settings : ClientAuthSettings) (s : Shift) (slot : Nat) (r : Request)
    (desks : Nat → Desk) (i : Nat) : Prop where
  returns : Returns settings s slot r desks i
  done : (poll settings (s.retry settings desks i)).1 = .done true
  answered : ((poll settings (s.retry settings desks i)).2.desk.host.slot s.worker.table
    slot).done = true
  same_of_present : (desks i).host.catalog = s.desk.host.catalog →
    s.desk.host.catalog.databases.get? settings.database ≠ none →
    (poll settings (s.retry settings desks i)).2.desk.host.slot s.worker.table slot =
      (poll settings (cleared s)).2.desk.host.slot s.worker.table slot
  same_of_none : (∀ j ≤ i, (desks j).host.catalog = s.desk.host.catalog) →
    s.worker.session = none →
    (poll settings (s.retry settings desks i)).2.desk.host.slot s.worker.table slot =
      (poll settings (cleared s)).2.desk.host.slot s.worker.table slot
  alike : (desks i).host.catalog = s.desk.host.catalog →
    (((poll settings (s.retry settings desks i)).2.desk.host.slot s.worker.table
        slot).result? = none ↔
      ((poll settings (cleared s)).2.desk.host.slot s.worker.table slot).result? = none)

/-- On the return the slot gets what is ruled then. -/
theorem slot_of_returns {i : Nat}
    (hfound : found s.worker (s.desk.host.slot s.worker.table) = some (slot, r))
    (htended : s.Tended settings slot desks) (hi : i < s.worker.slots.length)
    (hreturns : Returns settings s slot r desks i) :
    (poll settings (s.retry settings desks i)).1 = .done true ∧
      (poll settings (s.retry settings desks i)).2.desk.host.slot s.worker.table slot =
        { (s.desk.host.slot s.worker.table slot).setResult
            (settings.ruling (desks i).host.catalog
              ((s.retry settings desks i).worker.missing settings.database) r.connection
              r.status).1.folded with done := true } := by
  have htable := (follows_retry settings desks (slots_ne_nil_of_found hfound) i).table_eq
  have hfound' : found (s.retry settings desks i).worker
      ((desks i).host.slot (s.retry settings desks i).worker.table) = some (slot, r) := by
    rw [htable]
    exact hreturns.found
  have hslot := slot_of_spared (s := s.retry settings desks i) settings
    (by rw [htable]; exact htended.maps i hi) hfound' (seasoned_retry settings s desks i).rested
    (htended.transactional i hi) (htended.spared i hi)
  have hcopy : (s.retry settings desks i).desk.host.slot s.worker.table slot =
      s.desk.host.slot s.worker.table slot := hreturns.slot_eq
  rw [htable, hcopy] at hslot
  exact hslot

theorem resumes_of_returns {i : Nat} (hm : s.desk.host.Maps s.worker.table)
    (hfound : found s.worker (s.desk.host.slot s.worker.table) = some (slot, r))
    (hw : s.worker.Rested settings.database)
    (ht : s.desk.host.catalog.TransactionalIn settings.database)
    (htended : s.Tended settings slot desks) (hi : i < s.worker.slots.length)
    (hreturns : Returns settings s slot r desks i) : Resumes settings s slot r desks i := by
  obtain ⟨hdone, hretry⟩ := slot_of_returns hfound htended hi hreturns
  have hinstead : (poll settings (cleared s)).2.desk.host.slot s.worker.table slot = _ :=
    (slot_of_spared (s := cleared s) settings ⟨hm.mapped, hm.valid⟩ hfound hw ht
      (Nat.not_lt_zero _)).2
  -- Both slots hold what is ruled on the same copy, so it is the rulings that matter.
  have hsame (hcatalog : (desks i).host.catalog = s.desk.host.catalog)
      (hruling : settings.ruling s.desk.host.catalog
          ((s.retry settings desks i).worker.missing settings.database) r.connection r.status =
        settings.ruling s.desk.host.catalog (s.worker.missing settings.database) r.connection
          r.status) :
      (poll settings (s.retry settings desks i)).2.desk.host.slot s.worker.table slot =
        (poll settings (cleared s)).2.desk.host.slot s.worker.table slot := by
    rw [hretry, hinstead, hcatalog, hruling]
    rfl
  refine ⟨hreturns, hdone, by rw [hretry], fun hcatalog hpresent => ?_, fun hcatalogs hnone => ?_,
    fun hcatalog => ?_⟩
  · exact hsame hcatalog (ruling_of_present hpresent _ _)
  · refine hsame (hcatalogs i (Nat.le_refl i)) ?_
    by_cases hpresent : s.desk.host.catalog.databases.get? settings.database = none
    · have hheld : (s.retry settings desks i).worker.session = none :=
        session_retry (fun j hj => htended.spared j (Nat.lt_trans hj hi))
          fun j hj => by rw [hcatalogs j (Nat.le_of_lt hj)]; exact hpresent
      rw [Worker.missing_of_none hheld, Worker.missing_of_none hnone]
    · exact ruling_of_present hpresent _ _
  · rw [hretry, hinstead, hcatalog, Slot.result?_eq_none_iff, Slot.result?_eq_none_iff]
    exact rejects_of_missing _ _ _ _ _ _

/-! ## All about panics -/

/-- A panic outside of procedures costs the worker, and nothing else: the poll is undone, a
new worker takes the place, and within as many polls as it has slots it resumes the
request. -/
structure LosesNothing (settings : ClientAuthSettings) (s : Shift) (slot : Nat)
    (r : Request) : Prop where
  undone : Undone s (poll settings s).2
  replaced : ∀ p : Post, p.worker = s.worker → p.isDue s.desk.host = true →
    (p.poll settings s.desk).1.2.worker = s.worker.successor ∧
      (p.poll settings s.desk).2.host = (poll settings s).2.desk.host
  resumed : ∀ desks : Nat → Desk, s.Tended settings slot desks →
    ∃ i < s.worker.slots.length, Resumes settings s slot r desks i

/-- A poll that finds a request panics exactly if a panic strikes it outside of procedures,
and then nothing is lost.  Otherwise a panic of a procedure, whether it is planned or the
procedure panics by itself, is answered by a rejection. -/
theorem panic_loses_nothing (hm : s.desk.host.Maps s.worker.table)
    (hfound : found s.worker (s.desk.host.slot s.worker.table) = some (slot, r))
    (hw : s.worker.Seasoned settings.database)
    (ht : s.desk.host.catalog.TransactionalIn settings.database) :
    ((∃ p : PanicPayload, (poll settings s).1 = .unwound p) ↔
        (poll settings).StruckBy .crash s) ∧
      ((poll settings).StruckBy .crash s → LosesNothing settings s slot r) ∧
      (¬ (poll settings).StruckBy .crash s →
        (poll settings).StruckBy .panickingCall s ∨
          (precheck settings r.connection = .queue ∧
            settings.Falters s.desk.host.catalog r.connection r.status) →
        FailsClosed settings s slot) := by
  have hunwound := poll_unwound_iff hm hfound hw.rested ht
  refine ⟨hunwound, fun hcrash => ?_, fun hcalm htrouble => ?_⟩
  · have hundone := undone_of_crash hm hfound hw.rested ht hcrash
    refine ⟨hundone, fun p hworker hdue => ?_, fun desks htended => ?_⟩
    · obtain ⟨worker, desk⟩ := s
      obtain rfl : p.worker = worker := hworker
      exact Post.poll_of_unwound hdue (hunwound.mpr hcrash)
    · obtain ⟨i, hi, hreturns⟩ := exists_returns htended hundone hfound
      exact ⟨i, hi, resumes_of_returns hm hfound hw.rested ht htended hi hreturns⟩
  · exact failsClosed_of_trouble hm hfound hw.rested ht hcalm
      (htrouble.imp (spends_poll settings).struck id)

end Shift

/-! ## Alice, when the worker panics -/

section Alice

open Traffic

/-- The next transaction that is begun panics. -/
def panickyBegin : FaultPlan :=
  .set .none .begin [⟨some (.panic "out of memory"), 1⟩]

/-- The worker comes to alice, and panics when it begins the transaction. -/
def alicePanicked : Shift :=
  ⟨loneWorker,
    { aliceServed.desk with host := { aliceServed.desk.host with faults := panickyBegin } }⟩

/-- What the worker finds, and what is there when it has panicked. -/
theorem alicePanicked_run :
    alicePanicked.desk.host.memory.segments.length = 1 ∧
      Shift.found loneWorker (alicePanicked.desk.host.slot lone) =
        some (0, (alices 0).request 1) ∧
      (Shift.poll { mode := .on }).StruckBy .crash alicePanicked ∧
      (Shift.poll { mode := .on } alicePanicked).2.desk.host.memory.segments.length = 1 ∧
      Exposed.threats (Shift.poll { mode := .on } alicePanicked).2.desk = 0 ∧
      loneWorker.slots.length = 1 := by
  decide +kernel

/-- A new worker at the desk that the other left answers alice in its first poll. -/
theorem Shift.panic_loses_nothing_alice :
    (∃ p : PanicPayload, (Shift.poll { mode := .on } alicePanicked).1 = .unwound p) ∧
      Shift.Resumes { mode := .on } alicePanicked 0 ((alices 0).request 1)
        (fun _ => (Shift.poll { mode := .on } alicePanicked).2.desk) 0 := by
  obtain ⟨hlength, hfound, hstruck, hleft, hthreats, hslots⟩ := alicePanicked_run
  have hvalid : lone.layout.Valid := by decide
  obtain ⟨hunwound, hloses, -⟩ := @Shift.panic_loses_nothing alicePanicked { mode := .on } 0
    ((alices 0).request 1) ⟨by rw [hlength]; exact Nat.zero_lt_one, hvalid⟩ hfound
    (.new 0 lone) transactional_denyingCatalog
  obtain ⟨hundone, -, hresumed⟩ := hloses hstruck
  have hslots : alicePanicked.worker.slots.length = 1 := hslots
  refine ⟨hunwound.mpr hstruck, ?_⟩
  obtain ⟨i, hi, hresumes⟩ := hresumed
    (fun _ => (Shift.poll { mode := .on } alicePanicked).2.desk) {
      maps := fun i _ => ⟨by rw [hleft]; exact Nat.zero_lt_one, hvalid⟩
      transactional := fun i _ => by
        rw [hundone.catalog_eq]
        exact transactional_denyingCatalog
      spared := fun i hi => by
        obtain rfl : i = 0 := by omega
        rw [Struck, threats_retry, hthreats]
        exact Nat.not_lt_zero _
      left := rfl
      kept := fun i hi => by omega }
  obtain rfl : i = 0 := by omega
  exact hresumes

/-- A worker that has served alice once comes to her again, and panics; meanwhile the
database is gone. -/
def goneBehind : Shift :=
  ⟨{ loneWorker with scans := 1, session := some ⟨"postgres", []⟩ },
    { alicePanicked.desk with host := { alicePanicked.desk.host with catalog := {} } }⟩

theorem seasoned_goneBehind : goneBehind.worker.Seasoned "postgres" := by
  have hserved : (Shift.poll { mode := .on } aliceServed).2.worker = goneBehind.worker := by
    decide +kernel
  rw [← hserved]
  exact .poll rfl (.new 0 lone)

/-- What the two workers tell alice. -/
theorem goneBehind_run :
    goneBehind.desk.host.memory.segments.length = 1 ∧
      Shift.found goneBehind.worker (goneBehind.desk.host.slot goneBehind.worker.table) =
        some (0, (alices 0).request 1) ∧
      (Shift.poll { mode := .on }).StruckBy .crash goneBehind ∧
      Exposed.threats (Shift.poll { mode := .on } goneBehind).2 = 0 ∧
      ((Shift.poll { mode := .on } ⟨goneBehind.worker.successor,
        (Shift.poll { mode := .on } goneBehind).2.desk⟩).2.desk.host.slot lone 0).result? =
        some ("\"clientauth\" feature was not able to connect to the database " ++
          "\"postgres\": database \"postgres\" does not exist") ∧
      ((Shift.poll { mode := .on } (Exposed.cleared goneBehind)).2.desk.host.slot lone
        0).result? = some "database \"postgres\" does not exist" := by
  decide +kernel

/-- A panic can change the verdict, though no fault is left and the catalog is the same: the
new worker cannot connect, and the other one would have learned of it in the session that
it held. -/
theorem Shift.panic_changes_reason :
    goneBehind.worker.Seasoned "postgres" ∧
      (Shift.poll { mode := .on }).StruckBy .crash goneBehind ∧
      Shift.Undone goneBehind (Shift.poll { mode := .on } goneBehind).2 ∧
      Exposed.threats (Shift.poll { mode := .on } goneBehind).2 = 0 ∧
      ((Shift.poll { mode := .on } ⟨goneBehind.worker.successor,
          (Shift.poll { mode := .on } goneBehind).2.desk⟩).2.desk.host.slot lone 0).result? ≠
        ((Shift.poll { mode := .on } (Exposed.cleared goneBehind)).2.desk.host.slot lone
          0).result? := by
  obtain ⟨hlength, hfound, hstruck, hthreats, hretried, hinstead⟩ := goneBehind_run
  have hm : goneBehind.desk.host.Maps goneBehind.worker.table :=
    ⟨by rw [hlength]; exact Nat.zero_lt_one, by decide⟩
  have ht : goneBehind.desk.host.catalog.TransactionalIn "postgres" := by
    rintro db ⟨⟩
  refine ⟨seasoned_goneBehind, hstruck, ?_, hthreats, ?_⟩
  · exact Shift.undone_of_crash hm hfound seasoned_goneBehind.rested ht hstruck
  · rw [hretried, hinstead]
    decide

end Alice

end Admission
