import Admission.Proofs.Decision.Decide
import Admission.Proofs.Precheck
import Admission.Proofs.Text.SingleLine

set_option autoImplicit false

/-!
# The worker's decision is the ruling

Where no fault is planned, a worker at rest answers what is ruled about the request,
and the values that are committed afterwards are those of the ruling.
-/

namespace Admission

open Exposed Attempt

/-- What a worker answers for a decision: that of the procedures, or the error. -/
def Ending.answer? : Ending (Option String) → Option (Option String)
  | .done rejection => some rejection
  | .failed e => some (some e.message)
  | .unwound _ => none

namespace Ruling

/-- What is ruled, with the reason on one line. -/
def folded (ruling : Ruling) : Option String :=
  ruling.reason?.map Text.singleLine

/-- The answer is what is ruled, as far as one line shows. -/
def Told (ruling : Ruling) (answer : Option String) : Prop :=
  answer.map Text.singleLine = ruling.folded

theorem told_folded (ruling : Ruling) : ruling.Told ruling.folded := by
  cases ruling with
  | accept => rfl
  | reject reason => exact congrArg some (Text.singleLine_singleLine reason)

end Ruling

theorem Outcome.rejection?_eq_folded (o : Outcome) : o.rejection? = o.ruling.folded := by
  cases o <;> rfl

/-- What `require` rejects with is on one line. -/
theorem RequireFailure.singleLine_message (failure : RequireFailure) :
    Text.singleLine (failure.message .clientauth) = failure.message .clientauth := by
  cases failure <;> decide +kernel

theorem Mode.reason?_ruling (m : Mode) (failure : RequireFailure) :
    (m.ruling .clientauth failure).reason? = (m.ruling .clientauth failure).folded := by
  unfold ruling
  split
  · exact congrArg some failure.singleLine_message.symm
  · rfl

/-- What is said about an entry that names no procedure is on one line. -/
theorem singleLine_of_flaw {entries : List (String × String)} {e : BackendError}
    (h : firstFlaw? .clientauth entries = some e) : Text.singleLine e.message = e.message := by
  obtain ⟨part, -, hpart⟩ := List.exists_of_findSome?_eq_some h
  unfold NamePart.flaw? at hpart
  split at hpart
  · cases hpart
    decide +kernel
  · split at hpart
    · cases hpart
      decide +kernel
    · cases hpart

namespace Duty

variable {u : Duty} {mode : Mode} {r : Request} {db : Database}

/-- What is done when something is missing. -/
theorem follow_missing (m : Mode) (failure : RequireFailure) (reason : AcceptReason) (u : Duty) :
    (follow r (m.missing failure reason) u).1 = .done (m.ruling .clientauth failure).folded ∧
      (follow r (m.missing failure reason) u).2.dialog = u.dialog := by
  rw [← Mode.reason?_ruling]
  unfold Mode.missing Mode.ruling
  split <;> exact ⟨rfl, rfl⟩

/-- In an open transaction, the decision ends as is ruled, and the session sees the values
of the ruling if the decision is done. -/
structure Consults (ruling : Ruling × Values) (before : Duty) (ending : Ending (Option String))
    (after : Duty) : Prop where
  answer?_eq : ending.answer? = some ruling.1.folded
  values_of_done : ∀ rejection : Option String, ending = .done rejection →
    after.dialog.values = ruling.2
  values_of_failed : ∀ e : BackendError, ending = .failed e → ruling.2 = before.dialog.values

theorem consults_run (hf : u.dialog.host.faults = .none) (hopen : u.dialog.session.layers ≠ [])
    (hdb : u.dialog.host.catalog.databases.get? u.dialog.session.database = some db)
    (ht : db.Transactional) (names : List QualifiedName) :
    Consults ((db.isolate (.clientauth r.connection r.status) (names.map (·.key))
        u.dialog.values).map Outcome.ruling id) u
      (follow r (.run names) u).1 (follow r (.run names) u).2 := by
  obtain ⟨hending, hvalues, -⟩ := Dialog.runIsolated_of_unplanned names
    (.clientauth r.connection r.status) hf hopen hdb ht
  generalize db.isolate _ _ u.dialog.values = heard at hending hvalues ⊢
  rw [follow, bind_apply, inSession, onPart_apply]
  generalize Dialog.runIsolated names _ u.dialog = result at hending hvalues
  obtain ⟨ending, d⟩ := result
  dsimp only at hending hvalues
  subst hending
  obtain ⟨log, metrics, hnote⟩ :=
    noteOutcome_apply r.connection.user heard.1 { u with dialog := d }
  dsimp only
  rw [bind_of_done hnote]
  exact ⟨congrArg some heard.1.rejection?_eq_folded, fun _ _ => hvalues, by rintro _ ⟨⟩⟩

/-- What is ruled when something is missing. -/
theorem consults_missing {failure : RequireFailure} {reason : AcceptReason} :
    Consults (mode.ruling .clientauth failure, u.dialog.values) u
      (follow r (mode.missing failure reason) u).1
      (follow r (mode.missing failure reason) u).2 := by
  obtain ⟨hending, hdialog⟩ := follow_missing (r := r) mode failure reason u
  rw [hending]
  exact ⟨rfl, fun _ _ => by rw [hdialog], by rintro _ ⟨⟩⟩

theorem consults_consult (hf : u.dialog.host.faults = .none)
    (hopen : u.dialog.session.layers ≠ []) (hmode : mode ≠ .off)
    (hdb : u.dialog.host.catalog.databases.get? u.dialog.session.database = some db)
    (ht : db.Transactional) :
    Consults (db.ruling .clientauth mode (.clientauth r.connection r.status) u.dialog.values) u
      (consult mode r u).1 (consult mode r u).2 := by
  -- What the catalog asks for decides how the request is followed.
  have hdone {check : CatalogCheck}
      (h : Dialog.evaluate .clientauth mode u.dialog = (.done check, u.dialog)) :
      consult mode r u = follow r check u := by
    rw [consult, bind_apply, inSession, onPart_apply, h]
  unfold Database.ruling
  cases hinstalled : db.catalogInstalled with
  | false =>
    rw [hdone (Dialog.evaluate_of_bare hf hmode hdb hinstalled)]
    exact consults_missing
  | true =>
    rw [if_pos rfl]
    cases hflaw : firstFlaw? .clientauth (db.entriesFor .clientauth) with
    | some e =>
      have hconsult : consult mode r u = (.failed e, u) := by
        rw [consult, bind_apply, inSession, onPart_apply,
          Dialog.evaluate_of_flaw hf hmode hdb hinstalled hflaw]
      rw [hconsult]
      exact ⟨congrArg (some ∘ some) (singleLine_of_flaw hflaw).symm, by rintro _ ⟨⟩, fun _ _ => rfl⟩
    | none =>
      obtain ⟨names, hnames, hevaluate⟩ :=
        Dialog.evaluate_of_sound hf hmode hdb hinstalled hflaw
      rw [hdone hevaluate, ← hnames]
      cases names with
      | nil => exact consults_missing
      | cons first rest => exact consults_run hf hopen hdb ht (first :: rest)

end Duty

/-! ## In a transaction of its own -/

/-- The decision is answered as is ruled, and then its database has the values of the
ruling, and every other database those it had. -/
structure Ruled (database : String) (ruling : Ruling × Values) (before : Catalog)
    (ending : Ending (Option String)) (after : Catalog) : Prop where
  told : ∃ answer : Option String, ending.answer? = some answer ∧ ruling.1.Told answer
  /-- What a database that is there has to say is on one line from the start. -/
  answer?_of_present : before.databases.get? database ≠ none →
    ending.answer? = some ruling.1.folded
  committed?_eq : ∀ other : String,
    after.committed? other = if other = database then ruling.2 else before.committed? other

theorem told_of_folded {ruling : Ruling} {ending : Ending (Option String)}
    (h : ending.answer? = some ruling.folded) :
    ∃ answer : Option String, ending.answer? = some answer ∧ ruling.Told answer :=
  ⟨ruling.folded, h, ruling.told_folded⟩

section Kept

variable {database : String} {ruling : Ruling × Values} {before after : Catalog}
  {ending : Ending (Option String)}

theorem committed?_of_kept (hvalues : ruling.2 = before.committed? database)
    (hcatalog : after = before) (other : String) :
    after.committed? other = if other = database then ruling.2 else before.committed? other := by
  rw [hvalues, hcatalog]
  split
  · rename_i hother
    rw [hother]
  · rfl

/-- A decision that changes no value. -/
theorem ruled_of_kept (h : ending.answer? = some ruling.1.folded)
    (hvalues : ruling.2 = before.committed? database) (hcatalog : after = before) :
    Ruled database ruling before ending after :=
  ⟨told_of_folded h, fun _ => h, committed?_of_kept hvalues hcatalog⟩

/-- A decision that has no database to look at. -/
theorem ruled_of_missing (hdb : before.databases.get? database = none)
    (h : ending.answer? = some ruling.1.reason?)
    (hvalues : ruling.2 = before.committed? database) (hcatalog : after = before) :
    Ruled database ruling before ending after :=
  ⟨⟨_, h, rfl⟩, fun hpresent => absurd hdb hpresent, committed?_of_kept hvalues hcatalog⟩

end Kept

namespace Duty

variable {u : Duty} {mode : Mode} {r : Request} {db : Database} {database : String}

/-- The duty with its transaction begun. -/
def begun (u : Duty) : Duty :=
  { u with dialog := { u.dialog with session := { u.dialog.session with layers := [[]] } } }

theorem execute_of_closed (hf : u.dialog.host.faults = .none)
    (hsession : u.dialog.session = ⟨database, []⟩) :
    execute mode r u =
      wrapUp (inSession Dialog.commit) (inSession Dialog.rollback) (consult mode r u.begun).1
        (consult mode r u.begun).2 := by
  have hbegin : inSession Dialog.begin u = (.done (), u.begun) := by
    rw [inSession, onPart_apply, Dialog.begin_of_closed hf (by rw [hsession])]
    rfl
  rw [execute_eq, bracket_eq, bind_of_done hbegin]
  rfl

theorem values_begun (hsession : u.dialog.session = ⟨database, []⟩) :
    u.begun.dialog.values = u.dialog.host.catalog.committed? database := by
  have hdatabase : u.begun.dialog.session.database = database := congrArg Session.database hsession
  rw [Dialog.values, Session.get?_eq, hdatabase]
  rfl

/-- Closing the transaction of a decision that is done publishes the values of its ruling. -/
theorem ruled_wrapUp {before : Catalog} {ruling : Ruling × Values} {v : Duty}
    {rejection : Option String} (hf : v.dialog.host.faults = .none)
    (hopen : v.dialog.session.layers ≠ []) (hdatabase : v.dialog.session.database = database)
    (hcatalog : v.dialog.host.catalog = before)
    (hdb : before.databases.get? database = some db)
    (hanswer : (Ending.done rejection).answer? = some ruling.1.folded)
    (hvalues : v.dialog.values = ruling.2) :
    Ruled database ruling before
      (wrapUp (inSession Dialog.commit) (inSession Dialog.rollback) (.done rejection) v).1
      (wrapUp (inSession Dialog.commit) (inSession Dialog.rollback) (.done rejection)
        v).2.dialog.host.catalog := by
  have hfound : v.dialog.host.catalog.databases.get? v.dialog.session.database = some db := by
    rw [hcatalog, hdatabase, hdb]
  rw [wrapUp, bind_apply, inSession, onPart_apply, Dialog.commit_eq_close hf,
    Dialog.close_of_open hopen hfound]
  refine ⟨told_of_folded hanswer, fun _ => hanswer, fun other => ?_⟩
  have hcommitted := Session.committed?_committed hfound other
  replace hvalues : v.dialog.session.get? v.dialog.host.catalog = ruling.2 := hvalues
  exact hcommitted.trans (by rw [hvalues, hdatabase, hcatalog])

theorem execute_of_unplanned (hf : u.dialog.host.faults = .none)
    (hsession : u.dialog.session = ⟨database, []⟩) (hmode : mode ≠ .off)
    (hdb : u.dialog.host.catalog.databases.get? database = some db) (ht : db.Transactional) :
    Ruled database (db.ruling .clientauth mode (.clientauth r.connection r.status)
        (u.dialog.host.catalog.committed? database)) u.dialog.host.catalog
      (execute mode r u).1 (execute mode r u).2.dialog.host.catalog := by
  have hopen : u.begun.dialog.session.layers ≠ [] := List.cons_ne_nil _ _
  have hdb' : u.begun.dialog.host.catalog.databases.get? u.begun.dialog.session.database =
      some db := by
    rw [← hdb, begun, hsession]
  have hconsults := consults_consult (u := u.begun) (r := r) hf hopen hmode hdb' ht
  have hconsulted := consulted_consult (u := u.begun) mode r
    (fun _ h => by rw [hdb'] at h; cases h; exact ht) hopen
  have hplan : (consult mode r u.begun).2.dialog.host.faults = .none :=
    (tame_consult mode r).steady.unplanned (s := u.begun) hf
  obtain ⟨_, _, _, hhost⟩ := hconsulted.host_eq
  rw [values_begun hsession] at hconsults
  rw [execute_of_closed hf hsession]
  generalize consult mode r u.begun = result at hconsults hconsulted hplan hhost
  obtain ⟨ending, v⟩ := result
  have hcatalog : v.dialog.host.catalog = u.dialog.host.catalog := by
    rw [show v.dialog.host = _ from hhost]
    rfl
  cases ending with
  | unwound p => cases hconsults.answer?_eq
  | failed e =>
    have hkept := hconsults.values_of_failed e rfl
    rw [values_begun hsession] at hkept
    exact ruled_of_kept hconsults.answer?_eq hkept hcatalog
  | done rejection =>
    have hdatabase : v.dialog.session.database = database :=
      hconsulted.database_eq.trans (congrArg Session.database hsession)
    have hlayers : v.dialog.session.layers ≠ [] := by
      have hdepth : v.dialog.session.layers.length = 1 := hconsulted.depth_eq rejection rfl
      exact fun h => by rw [h] at hdepth; cases hdepth
    exact ruled_wrapUp hplan hlayers hdatabase hcatalog hdb hconsults.answer?_eq
      (hconsults.values_of_done rejection rfl)

/-- A session on a database that is gone is no use. -/
theorem execute_of_missing (hf : u.dialog.host.faults = .none)
    (hsession : u.dialog.session = ⟨database, []⟩) (hmode : mode ≠ .off)
    (hdb : u.dialog.host.catalog.databases.get? database = none) :
    (execute mode r u).1 = .failed (noDatabase database) ∧
      (execute mode r u).2.dialog.host.catalog = u.dialog.host.catalog := by
  have hconsult : consult mode r u.begun = (.failed (noDatabase database), u.begun) := by
    have hdatabase : u.begun.dialog.session.database = database :=
      congrArg Session.database hsession
    have hevaluate := Dialog.evaluate_of_missing (d := u.begun.dialog) hf .clientauth hmode
      (by rw [hdatabase]; exact hdb)
    rw [consult, bind_apply, inSession, onPart_apply, hevaluate, hdatabase]
  rw [execute_of_closed hf hsession, hconsult]
  exact ⟨rfl, rfl⟩

end Duty

/-! ## By a worker -/

/-- The reason of a rejection when the configured database is not there.  A worker that
still holds a session learns of it there. -/
def Worker.missing (w : Worker) (database : String) : String :=
  if w.session.isSome then (noDatabase database).message
  else Shift.unreachable database (noDatabase database)

theorem Worker.missing_of_some {w : Worker} {session : Session} (h : w.session = some session)
    (database : String) : w.missing database = (noDatabase database).message := by
  rw [missing, h]
  rfl

theorem Worker.missing_of_none {w : Worker} (h : w.session = none) (database : String) :
    w.missing database = Shift.unreachable database (noDatabase database) := by
  rw [missing, h]
  rfl

namespace Shift

variable {s : Shift} {settings : ClientAuthSettings} {r : Request} {database : String}
  {mode : Mode} {db : Database}

/-- A worker answers as the decision in its session ends. -/
theorem used_spec (session : Session) (mode : Mode) (r : Request) (s : Shift) :
    (((useSession session mode r).settle >>= report) s).1.answer? =
        (Duty.execute mode r ⟨⟨session, s.desk.host⟩, s.desk.metrics⟩).1.answer? ∧
      (((useSession session mode r).settle >>= report) s).2.desk.host.catalog =
        (Duty.execute mode r ⟨⟨session, s.desk.host⟩, s.desk.metrics⟩).2.dialog.host.catalog := by
  rw [bind_apply, settle, useSession_eq]
  generalize Duty.execute mode r ⟨⟨session, s.desk.host⟩, s.desk.metrics⟩ = result
  obtain ⟨ending, u⟩ := result
  cases ending <;> exact ⟨rfl, rfl⟩

theorem ruled_of_used {ruling : Ruling × Values} {session : Session} {before : Catalog}
    (h : Ruled database ruling before
      (Duty.execute mode r ⟨⟨session, s.desk.host⟩, s.desk.metrics⟩).1
      (Duty.execute mode r ⟨⟨session, s.desk.host⟩, s.desk.metrics⟩).2.dialog.host.catalog) :
    Ruled database ruling before (((useSession session mode r).settle >>= report) s).1
      (((useSession session mode r).settle >>= report) s).2.desk.host.catalog := by
  obtain ⟨hanswer, hcatalog⟩ := used_spec session mode r s
  obtain ⟨htold, hpresent, hcommitted⟩ := h
  rw [← hanswer] at htold hpresent
  rw [← hcatalog] at hcommitted
  exact ⟨htold, hpresent, hcommitted⟩

/-- A worker that holds a session uses it, and a new one is opened otherwise. -/
theorem openSession_of_unplanned (hf : s.desk.host.faults = .none)
    (hw : s.worker.Rested database)
    (hsession : s.worker.session ≠ none ∨ s.desk.host.catalog.databases.get? database ≠ none) :
    ∃ log : List LogLine, openSession database s = (.done (.ok ⟨database, []⟩),
      ⟨{ s.worker with session := none }, { s.desk with host := { s.desk.host with log } }⟩) := by
  cases hheld : s.worker.session with
  | some session =>
    rw [← hw session hheld]
    refine ⟨s.desk.host.log, ?_⟩
    rw [openSession, gets_bind_apply, hheld]
    rfl
  | none =>
    obtain ⟨db, hdb⟩ := Option.ne_none_iff_exists'.mp (hsession.resolve_left fun h => h hheld)
    have hworker : s.worker = { s.worker with session := none } := by rw [← hheld]
    have hconnect : Host.connect database s.desk.host = (.done ⟨database, []⟩, s.desk.host) := by
      rw [Host.connect, bind_of_done (Host.strike_of_unplanned hf .connect), Attempt.ofExcept,
        Catalog.database?_of_get? hdb]
      rfl
    have hrun := openSession_of_none database hheld
    rw [bind_apply, settle, atDesk, onPart_apply, Desk.onHost, onPart_apply, hconnect] at hrun
    rw [hrun, ← hworker]
    exact ⟨_, rfl⟩

/-- A worker that has to connect to a missing database gets no session and logs so. -/
theorem openSession_of_missing (hf : s.desk.host.faults = .none) (hheld : s.worker.session = none)
    (hdb : s.desk.host.catalog.databases.get? database = none) :
    ∃ log : List LogLine, openSession database s = (.done (.error (noDatabase database)),
      { s with desk := { s.desk with host := { s.desk.host with log } } }) := by
  have hconnect : Host.connect database s.desk.host =
      (.failed (noDatabase database), s.desk.host) := by
    rw [Host.connect, bind_of_done (Host.strike_of_unplanned hf .connect), Attempt.ofExcept,
      Catalog.database?_of_missing hdb]
    rfl
  have hrun := openSession_of_none database hheld
  rw [bind_apply, settle, atDesk, onPart_apply, Desk.onHost, onPart_apply, hconnect] at hrun
  exact ⟨_, hrun⟩

/-- So it rejects, and has only logged. -/
theorem decide_of_missing (hcheck : precheck settings r.connection = .queue)
    (hf : s.desk.host.faults = .none) (hheld : s.worker.session = none)
    (hdb : s.desk.host.catalog.databases.get? settings.database = none) :
    ∃ log : List LogLine, decide settings r s =
      (.done (some (unreachable settings.database (noDatabase settings.database))),
        { s with desk := { s.desk with host := { s.desk.host with log } } }) := by
  obtain ⟨log, hopened⟩ := openSession_of_missing hf hheld hdb
  refine ⟨log, ?_⟩
  rw [decide_of_queue hcheck, bind_of_done hopened]
  rfl

/-- What the settings do not exempt is queued. -/
theorem precheck_eq_queue_iff_not_exempts {c : Connection} :
    precheck settings c = .queue ↔ ¬ settings.Exempts c := by
  rw [precheck_eq_queue_iff, ClientAuthSettings.Exempts, not_or, not_or]

theorem decide_of_exempt (h : settings.Exempts r.connection) (s : Shift) :
    (decide settings r s).1 = .done none ∧
      (decide settings r s).2.desk.host.catalog = s.desk.host.catalog := by
  unfold decide
  cases hp : precheck settings r.connection with
  | skip reason => exact ⟨rfl, rfl⟩
  | disabled => exact ⟨rfl, rfl⟩
  | queue => exact absurd h (precheck_eq_queue_iff_not_exempts.mp hp)

/-- A worker at rest decides what is ruled. -/
theorem decide_of_unplanned (settings : ClientAuthSettings) (r : Request)
    (hf : s.desk.host.faults = .none)
    (hw : s.worker.Rested settings.database)
    (ht : s.desk.host.catalog.TransactionalIn settings.database) :
    Ruled settings.database
      (settings.ruling s.desk.host.catalog (s.worker.missing settings.database) r.connection
        r.status)
      s.desk.host.catalog (decide settings r s).1 (decide settings r s).2.desk.host.catalog := by
  unfold ClientAuthSettings.ruling
  by_cases hexempt : settings.Exempts r.connection
  · obtain ⟨hending, hcatalog⟩ := decide_of_exempt hexempt s
    rw [if_pos hexempt, hending]
    exact ruled_of_kept rfl rfl hcatalog
  have hmode : settings.mode ≠ .off := fun h => hexempt (.inr (.inr h))
  have hcheck := precheck_eq_queue_iff_not_exempts.mpr hexempt
  rw [if_neg hexempt]
  cases hdb : s.desk.host.catalog.databases.get? settings.database with
  | some db =>
    obtain ⟨log, hopened⟩ := openSession_of_unplanned hf hw (.inr (by rw [hdb]; nofun))
    have hruled := Duty.execute_of_unplanned (r := r)
      (u := ⟨⟨⟨settings.database, []⟩, { s.desk.host with log }⟩, s.desk.metrics⟩)
      hf rfl hmode hdb (ht db hdb)
    rw [decide_of_queue hcheck, bind_of_done hopened]
    exact ruled_of_used hruled
  | none =>
    dsimp only
    cases hheld : s.worker.session with
    | some session =>
      obtain ⟨log, hopened⟩ := openSession_of_unplanned hf hw (.inl (by rw [hheld]; nofun))
      rw [decide_of_queue hcheck, bind_of_done hopened, Worker.missing_of_some hheld]
      obtain ⟨hending, hcatalog⟩ := Duty.execute_of_missing (r := r)
        (u := ⟨⟨⟨settings.database, []⟩, { s.desk.host with log }⟩, s.desk.metrics⟩) hf rfl hmode
        hdb
      refine ruled_of_used (ruled_of_missing hdb ?_ rfl hcatalog)
      rw [hending]
      rfl
    | none =>
      obtain ⟨log, hdecided⟩ := decide_of_missing hcheck hf hheld hdb
      rw [hdecided, Worker.missing_of_none hheld]
      exact ruled_of_missing hdb rfl rfl rfl

end Shift

end Admission
