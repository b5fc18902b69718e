import Admission.Proofs.Decision.Answer

set_option autoImplicit false

/-!
# When something goes wrong with a request

A request that an error struck, or that the database itself could not decide, is
rejected, and no committed value changes.  Nothing of that stays with the worker: as
long as the database is there, it decides the next request as a new worker does.
-/

namespace Admission

open Attempt

/-! ## Trouble without a fault -/

/-- The database cannot decide the request: it is not there, an entry names no procedure,
or a procedure raises an error or panics. -/
def ClientAuthSettings.Falters (settings : ClientAuthSettings) (catalog : Catalog)
    (c : Connection) (status : Int32) : Prop :=
  ∀ db : Database, catalog.databases.get? settings.database = some db →
    db.catalogInstalled = true ∧
      (firstFlaw? .clientauth (db.entriesFor .clientauth) ≠ none ∨
        ∃ e : BackendError, (db.hear (.clientauth c status) (db.entriesFor .clientauth)
          (catalog.committed? settings.database)).1 = .raised e)

/-- What a database rules that an error keeps from deciding. -/
theorem Database.ruling_of_trouble {db : Database} {feature : Feature} {mode : Mode}
    {args : Args} {v : Values} (hinstalled : db.catalogInstalled = true)
    (h : firstFlaw? feature (db.entriesFor feature) ≠ none ∨
      ∃ e : BackendError, (db.hear args (db.entriesFor feature) v).1 = .raised e) :
    ∃ reason : String, db.ruling feature mode args v = (.reject reason, v) := by
  unfold Database.ruling
  rw [if_pos hinstalled]
  cases hflaw : firstFlaw? feature (db.entriesFor feature) with
  | some e => exact ⟨e.message, rfl⟩
  | none =>
    obtain ⟨e, hraised⟩ := h.resolve_left fun hne => hne hflaw
    cases hentries : db.entriesFor feature with
    | nil =>
      rw [hentries] at hraised
      cases hraised
    | cons first rest =>
      rw [hentries] at hraised
      refine ⟨e.message, ?_⟩
      dsimp only
      rw [Database.isolate]
      generalize db.hear args (first :: rest) v = heard at hraised
      obtain ⟨outcome, left⟩ := heard
      cases hraised
      rfl

/-- What cannot be decided is ruled to be rejected, and no value changes. -/
theorem ClientAuthSettings.ruling_of_falters {settings : ClientAuthSettings} {catalog : Catalog}
    {c : Connection} {status : Int32} (hexempt : ¬ settings.Exempts c)
    (h : settings.Falters catalog c status) (missing : String) :
    ∃ reason : String, settings.ruling catalog missing c status =
      (.reject reason, catalog.committed? settings.database) := by
  unfold ClientAuthSettings.ruling
  rw [if_neg hexempt]
  cases hdb : catalog.databases.get? settings.database with
  | none => exact ⟨missing, rfl⟩
  | some db =>
    obtain ⟨hinstalled, htrouble⟩ := h db hdb
    exact Database.ruling_of_trouble hinstalled htrouble

namespace Shift

variable {s : Shift} {settings : ClientAuthSettings} {slot : Nat} {r : Request}

/-! ## Rejections -/

/-- The poll is done, its slot holds a rejection, and no committed value has changed. -/
structure FailsClosed (settings : ClientAuthSettings) (s : Shift) (slot : Nat) : Prop where
  done : (poll settings s).1 = .done true
  answered : ((poll settings s).2.desk.host.slot s.worker.table slot).done = true
  rejected : ∃ m : String,
    ((poll settings s).2.desk.host.slot s.worker.table slot).result? = some m
  committed?_eq : (poll settings s).2.desk.host.catalog.committed? = s.desk.host.catalog.committed?

theorem failsClosed_of_rejection {reason : String} (h : Answered settings s slot (some reason))
    (hkept : (poll settings s).2.desk.host.catalog.committed? =
      s.desk.host.catalog.committed?) : FailsClosed settings s slot :=
  ⟨h.done, h.result?_eq.1, ⟨_, h.result?_eq.2⟩, hkept⟩

/-- A poll that no fault strikes rejects what the database cannot decide. -/
theorem failsClosed_of_falters (hm : s.desk.host.Maps s.worker.table)
    (hfound : found s.worker (s.desk.host.slot s.worker.table) = some (slot, r))
    (hqueue : precheck settings r.connection = .queue)
    (hw : s.worker.Rested settings.database)
    (ht : s.desk.host.catalog.TransactionalIn settings.database)
    (hspared : ¬ (poll settings).Struck s)
    (hfalters : settings.Falters s.desk.host.catalog r.connection r.status) :
    FailsClosed settings s slot := by
  obtain ⟨answer, hanswered, hruled⟩ := answered_of_spared hm hfound hw ht hspared
  obtain ⟨reason, hruling⟩ := ClientAuthSettings.ruling_of_falters
    (precheck_eq_queue_iff_not_exempts.mp hqueue) hfalters (s.worker.missing settings.database)
  rw [hruling] at hruled
  obtain ⟨_, hanswer, htold⟩ := hruled.told
  cases hanswer
  cases answer with
  | none => cases htold
  | some text =>
    refine failsClosed_of_rejection hanswered ?_
    funext other
    rw [hruled.committed?_eq other]
    split
    · rename_i hother
      rw [hother]
    · rfl

/-! ## The next request -/

/-- A database that is there is asked, whatever there would be to say if it were not. -/
theorem ruling_of_present {catalog : Catalog} {c : Connection} {status : Int32}
    (hpresent : catalog.databases.get? settings.database ≠ none) (missing missing' : String) :
    settings.ruling catalog missing c status = settings.ruling catalog missing' c status := by
  unfold ClientAuthSettings.ruling
  obtain ⟨db, hdb⟩ := Option.ne_none_iff_exists'.mp hpresent
  rw [hdb]

/-- The two workers decide the request alike at this desk, and leave the same committed
values. -/
structure Alike (settings : ClientAuthSettings) (d : Desk) (r : Request) (w w' : Worker) :
    Prop where
  decided : ∃ rejection : Option String,
    (decide settings r ⟨w, d⟩).1 = .done rejection ∧
      (decide settings r ⟨w', d⟩).1 = .done rejection
  committed?_eq : (decide settings r ⟨w, d⟩).2.desk.host.catalog.committed? =
    (decide settings r ⟨w', d⟩).2.desk.host.catalog.committed?

/-- A worker at rest decides as one that holds no session does. -/
theorem alike_of_rested {d : Desk} {w w' : Worker} (hf : d.host.faults = .none)
    (hpresent : d.host.catalog.databases.get? settings.database ≠ none)
    (ht : d.host.catalog.TransactionalIn settings.database)
    (hw : w.Rested settings.database) (hw' : w'.Rested settings.database) :
    Alike settings d r w w' := by
  -- Both follow the same ruling, and a ruling leaves no choice of the answer.
  have hruled := decide_of_unplanned settings r (s := ⟨w, d⟩) hf hw ht
  have hruled' := decide_of_unplanned settings r (s := ⟨w', d⟩) hf hw' ht
  rw [ruling_of_present hpresent _ (w'.missing settings.database)] at hruled
  have hanswer := (hruled.answer?_of_present hpresent).trans
    (hruled'.answer?_of_present hpresent).symm
  obtain ⟨rejection, decided, hrun⟩ := decide_done settings r ⟨w, d⟩
    fun payload h => by
      have hsome := hruled.answer?_of_present hpresent
      rw [h] at hsome
      cases hsome
  obtain ⟨rejection', decided', hrun'⟩ := decide_done settings r ⟨w', d⟩
    fun payload h => by
      have hsome := hruled'.answer?_of_present hpresent
      rw [h] at hsome
      cases hsome
  refine ⟨⟨rejection, by rw [hrun], ?_⟩, ?_⟩
  · rw [hrun, hrun'] at hanswer
    rw [hrun', Option.some.inj hanswer]
  · funext other
    rw [hruled.committed?_eq other, hruled'.committed?_eq other]

/-! ## All about a poll -/

/-- However a poll ends, the worker is at rest afterwards.  If an error struck the poll, or
the database could not decide, the request is rejected and no committed value has
changed.  And the next request that no fault is planned for is decided as a new worker
decides it, as long as the database is there. -/
theorem poll_recovers (hw : s.worker.Seasoned settings.database) :
    (poll settings s).2.worker.Rested settings.database ∧
      (∀ (slot : Nat) (r : Request), s.desk.host.Maps s.worker.table →
        found s.worker (s.desk.host.slot s.worker.table) = some (slot, r) →
        precheck settings r.connection = .queue →
        s.desk.host.catalog.TransactionalIn settings.database →
        s.desk.host.faults.ErrorsOnly →
        (poll settings).Struck s ∨
          settings.Falters s.desk.host.catalog r.connection r.status →
        FailsClosed settings s slot) ∧
      (∀ (next : ClientAuthSettings) (d : Desk) (r : Request),
        next.database = settings.database → d.host.faults = .none →
        d.host.catalog.databases.get? settings.database ≠ none →
        d.host.catalog.TransactionalIn settings.database →
        Alike next d r (poll settings s).2.worker
          { index := (poll settings s).2.worker.index
            table := (poll settings s).2.worker.table }) := by
  have hrested : (poll settings s).2.worker.Rested settings.database :=
    rests_poll settings s hw.rested
  refine ⟨hrested, fun slot r hm hfound hqueue ht herrors htrouble => ?_,
    fun next d r hdatabase hf hpresent ht => ?_⟩
  · by_cases hstruck : (poll settings).Struck s
    · obtain ⟨rejection, decided, hrun⟩ := decide_done_of_errorsOnly settings r herrors
      obtain ⟨reason, hanswered, hkept⟩ :=
        answered_of_struck hm hfound hw.rested ht hrun hstruck
      exact failsClosed_of_rejection hanswered hkept
    · exact failsClosed_of_falters hm hfound hqueue hw.rested ht hstruck
        (htrouble.resolve_left hstruck)
  · rw [← hdatabase] at hpresent ht hrested
    exact alike_of_rested hf hpresent ht hrested nofun

end Shift

/-! ## Alice, when a transaction cannot be begun -/

section Alice

open Traffic

/-- The next transaction cannot be begun. -/
def noBegin : FaultPlan :=
  .set .none .begin [⟨some (.error "no transaction"), 1⟩]

/-- The worker comes to alice, and its transaction cannot be begun. -/
def aliceStruck : Shift :=
  ⟨loneWorker, { aliceServed.desk with host := { aliceServed.desk.host with faults := noBegin } }⟩

/-- What the worker finds, and what the poll meets. -/
theorem aliceStruck_run :
    aliceStruck.desk.host.memory.segments.length = 1 ∧
      Shift.found loneWorker (aliceStruck.desk.host.slot lone) =
        some (0, (alices 0).request 1) ∧
      precheck { mode := .on } ((alices 0).request 1).connection = .queue ∧
      Exposed.threats (Shift.poll { mode := .on } aliceStruck).2 <
        Exposed.threats aliceStruck := by
  decide +kernel

/-- Alice is rejected, and then the worker serves the lone table as a new one does. -/
theorem Shift.poll_recovers_aliceStruck :
    Shift.FailsClosed { mode := .on } aliceStruck 0 ∧
      ∀ r : Request, Shift.Alike { mode := .on }
        { host := { (loneDesk [7]).host with catalog := denyingCatalog } } r
        (Shift.poll { mode := .on } aliceStruck).2.worker
        { index := (Shift.poll { mode := .on } aliceStruck).2.worker.index
          table := (Shift.poll { mode := .on } aliceStruck).2.worker.table } := by
  obtain ⟨hlength, hfound, hqueue, hstruck⟩ := aliceStruck_run
  obtain ⟨-, hcloses, hrecovers⟩ := @Shift.poll_recovers aliceStruck { mode := .on }
    (.new 0 lone)
  refine ⟨hcloses 0 _ ⟨?_, by decide⟩ hfound hqueue transactional_denyingCatalog
    (FaultPlan.errorsOnly_failing _ _ _) (.inl hstruck), fun r => ?_⟩
  · rw [hlength]
    exact Nat.zero_lt_one
  · exact hrecovers { mode := .on } _ r rfl rfl nofun transactional_denyingCatalog

end Alice

end Admission
