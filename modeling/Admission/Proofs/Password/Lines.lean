import Admission.Password.Check
import Admission.Proofs.Procedure.Kinds
import Admission.Proofs.Procedure.Policy

set_option autoImplicit false

/-!
# The lines of a password check

A check logs its outcome and no more: it does what it does without its lines, and the
lines come after all that the procedures log.  Procedures that write only through their
transaction log nothing, and then the lines of the check are all that is new in the log.
-/

namespace Admission

open Attempt

/-- The dialog with lines added to the log of its host. -/
def Dialog.say (d : Dialog) (lines : List LogLine) : Dialog :=
  { d with host := d.host.say lines }

@[simp] theorem Host.say_nil (h : Host) : h.say [] = h := by
  rw [say, List.append_nil]

@[simp] theorem Dialog.say_nil (d : Dialog) : d.say [] = d := by
  rw [say, Host.say_nil]

/-- The text of an outcome that is an error or a panic. -/
def Outcome.trouble? : Outcome → Option String
  | .raised e => some e.message
  | _ => none

namespace PasswordCheck

variable {s : PasscheckSettings} {r r' : PasswordRequest}

/-! ## In the session of the caller -/

/-- The check without the lines that it logs itself. -/
def unlogged (s : PasscheckSettings) (r : PasswordRequest) : Attempt Dialog Unit := do
  match ← Dialog.evaluate .passcheck s.mode with
  | .accept _ => pure ()
  | .reject failure =>
    .fail ⟨failure.message .passcheck ++ s.whereabouts, none⟩
  | .run procedures =>
    let outcome ← Dialog.runIsolated procedures (.passcheck r)
    match outcomeError? outcome with
    | none => pure ()
    | some e => .fail e

/-- What comes of the procedures, if they are run and their run can be closed. -/
def outcome? (s : PasscheckSettings) (r : PasswordRequest) (d : Dialog) : Option Outcome :=
  match Dialog.evaluate .passcheck s.mode d with
  | (.done (.run procedures), d) => (Dialog.runIsolated procedures (.passcheck r) d).1.value?
  | _ => none

/-- The kinds of results of the procedures. -/
def kinds (s : PasscheckSettings) (r : PasswordRequest) (d : Dialog) : List ResultKind :=
  match Dialog.evaluate .passcheck s.mode d with
  | (.done (.run procedures), d) => Dialog.isolatedKinds procedures (.passcheck r) d
  | _ => []

/-- The text of the error or the panic that ended the procedures. -/
def trouble? (s : PasscheckSettings) (r : PasswordRequest) (d : Dialog) : Option String :=
  (outcome? s r d).bind Outcome.trouble?

/-- The lines that the check logs itself. -/
def reported (s : PasscheckSettings) (r : PasswordRequest) (d : Dialog) : List LogLine :=
  (outcome? s r d).elim [] (outcomeLog r.user)

/-- A check does what it does without its lines, and logs them at the end. -/
theorem check_eq (s : PasscheckSettings) (r : PasswordRequest) (d : Dialog) :
    check s r d = ((unlogged s r d).1, (unlogged s r d).2.say (reported s r d)) := by
  simp only [check, unlogged, reported, outcome?, bind_apply]
  generalize Dialog.evaluate .passcheck s.mode d = evaluated
  obtain ⟨ending, d₁⟩ := evaluated
  cases ending with
  | failed e => simp
  | unwound p => simp
  | done asked =>
    cases asked with
    | accept reason => simp
    | reject failure => simp [fail, conclude]
    | run procedures =>
      dsimp only
      rw [bind_apply, bind_apply]
      generalize Dialog.runIsolated procedures (.passcheck r) d₁ = run
      obtain ⟨ending, d₂⟩ := run
      cases ending with
      | failed e => simp [Ending.value?]
      | unwound p => simp [Ending.value?]
      | done outcome => cases outcome <;> rfl

theorem outcomeLog_raised_iff {user : String} {e e' : BackendError} :
    outcomeLog user (.raised e) = outcomeLog user (.raised e') ↔ e.message = e'.message := by
  simp [outcomeLog, toString]

/-- Requests whose procedures end in the same kinds of results are reported alike exactly
if the errors and the panics say the same. -/
theorem reported_eq_iff (huser : r'.user = r.user) {d : Dialog}
    (hkinds : kinds s r d = kinds s r' d) :
    reported s r d = reported s r' d ↔ trouble? s r d = trouble? s r' d := by
  have halike : Option.Rel Outcome.Alike (outcome? s r d) (outcome? s r' d) := by
    unfold kinds at hkinds
    unfold outcome?
    generalize Dialog.evaluate .passcheck s.mode d = evaluated at hkinds ⊢
    obtain ⟨ending, d₁⟩ := evaluated
    cases ending with
    | failed e => exact .none
    | unwound p => exact .none
    | done asked =>
      cases asked with
      | accept reason => exact .none
      | reject failure => exact .none
      | run procedures => exact Dialog.alike_runIsolated hkinds
  unfold reported trouble?
  rw [huser]
  generalize outcome? s r d = o at halike
  generalize outcome? s r' d = o' at halike
  cases halike with
  | none => simp
  | some h =>
    cases h with
    | accepted => simp [Outcome.trouble?]
    | rejected reason reason' => simp [Outcome.trouble?, outcomeLog]
    | raised e e' => simp [Outcome.trouble?, outcomeLog_raised_iff]

/-- Where no procedure raises or panics, there is no text to report. -/
theorem trouble?_of_kinds {d : Dialog} (hraise : .raise ∉ kinds s r d)
    (hpanic : .panic ∉ kinds s r d) : trouble? s r d = none := by
  unfold kinds at hraise hpanic
  unfold trouble? outcome?
  generalize Dialog.evaluate .passcheck s.mode d = evaluated at hraise hpanic ⊢
  obtain ⟨ending, d₁⟩ := evaluated
  cases ending with
  | failed e => rfl
  | unwound p => rfl
  | done asked =>
    cases asked with
    | accept reason => rfl
    | reject failure => rfl
    | run procedures =>
      have hraised := Dialog.not_raised_of_kinds hraise hpanic
      dsimp only
      generalize (Dialog.runIsolated procedures (.passcheck r) d₁).1.value? = o at hraised
      cases o with
      | none => rfl
      | some outcome =>
        cases outcome with
        | accepted => rfl
        | rejected reason => rfl
        | raised e => exact absurd rfl (hraised e)

/-! ## In a session of its own -/

/-- Something done in a transaction of the session, which is committed even if it fails. -/
def settled (body : Attempt Dialog Unit) (session : Session) :
    Attempt Host (Except BackendError Unit) := fun h =>
  let (ending, d) := (Dialog.transaction body.settle) ⟨session, h⟩
  (ending, d.host)

/-- What the caller is told in the end. -/
def deliver : Except BackendError Unit → Attempt Host Unit
  | .ok () => pure ()
  | .error e => .fail e

/-- Something done in a session of its own, as a password is checked there. -/
def via (s : PasscheckSettings) (body : Attempt Dialog Unit) : Attempt Host Unit := do
  if s.mode = .off then
    pure ()
  else if s.database = "" then
    .fail noDatabaseConfigured
  else if !(← Host.databaseExists s.database) then
    .fail (databaseMissing s.database)
  else
    let session ← (Host.connect s.database).mapError (unreachable s.database)
    settled body session >>= deliver

theorem checkVia_eq_via (s : PasscheckSettings) (r : PasswordRequest) :
    checkVia s r = via s (check s r) := rfl

/-- The transaction in which a password is checked, if one is opened for it. -/
def inquiry? (s : PasscheckSettings) (h : Host) : Option Dialog :=
  if s.mode = .off ∨ s.database = "" then none
  else
    match Host.databaseExists s.database h with
    | (.done true, h) =>
      match Host.connect s.database h with
      | (.done session, h) =>
        match Dialog.begin ⟨session, h⟩ with
        | (.done (), d) => some d
        | _ => none
      | _ => none
    | _ => none

/-- How the transaction goes on when the check in it is over. -/
def afterwards (ended : Ending (Except BackendError Unit) × Dialog) : Ending Unit × Host :=
  match wrapUp Dialog.commit Dialog.rollback ended.1 ended.2 with
  | (.done result, d) => deliver result d.host
  | (.failed e, d) => (.failed e, d.host)
  | (.unwound p, d) => (.unwound p, d.host)

theorem settled_bind (body : Attempt Dialog Unit) (session : Session) (h : Host) :
    (settled body session >>= deliver) h =
      match Dialog.begin ⟨session, h⟩ with
      | (.done (), d) => afterwards (body.settle d)
      | (.failed e, d) => (.failed e, d.host)
      | (.unwound p, d) => (.unwound p, d.host) := by
  rw [bind_apply, settled, Dialog.transaction, bracket_eq, bind_apply]
  generalize Dialog.begin ⟨session, h⟩ = begun
  obtain ⟨ending, d⟩ := begun
  cases ending with
  | failed e => rfl
  | unwound p => rfl
  | done _ =>
    dsimp only
    rw [afterwards, bind_apply, observe]
    dsimp only
    generalize wrapUp Dialog.commit Dialog.rollback (body.settle d).1 (body.settle d).2 = ended
    obtain ⟨ending, d'⟩ := ended
    cases ending <;> rfl

/-- What is done in the transaction is all that matters of the body. -/
theorem via_eq (s : PasscheckSettings) (body : Attempt Dialog Unit) (h : Host) :
    via s body h =
      match inquiry? s h with
      | some d => afterwards (body.settle d)
      | none => via s (pure ()) h := by
  unfold inquiry? via
  -- Up to the transaction, the check takes the steps that `inquiry?` takes.
  by_cases hmode : s.mode = .off
  · simp [hmode]
  by_cases hdatabase : s.database = ""
  · simp [hmode, hdatabase]
  simp only [hmode, hdatabase, or_self, if_false, bind_apply]
  generalize Host.databaseExists s.database h = asked
  obtain ⟨ending, h₁⟩ := asked
  cases ending with
  | failed e => rfl
  | unwound p => rfl
  | done found =>
    cases found with
    | false => rfl
    | true =>
      dsimp only
      rw [if_neg (by decide), if_neg (by decide), bind_apply, bind_apply, mapError]
      generalize Host.connect s.database h₁ = connected
      obtain ⟨ending, h₂⟩ := connected
      cases ending with
      | failed e => rfl
      | unwound p => rfl
      | done session =>
        dsimp only
        rw [settled_bind, settled_bind]
        generalize Dialog.begin ⟨session, h₂⟩ = begun
        obtain ⟨ending, d⟩ := begun
        cases ending <;> rfl

end PasswordCheck

/-! ## Lines that were there before -/

namespace Dialog

/-- What was logged before makes no difference to the attempt. -/
def Deaf {α : Type} (x : Attempt Dialog α) : Prop :=
  ∀ (d : Dialog) (lines : List LogLine), x (d.say lines) = ((x d).1, (x d).2.say lines)

theorem Deaf.bind {α β : Type} {x : Attempt Dialog α} {f : α → Attempt Dialog β} (hx : Deaf x)
    (hf : ∀ a : α, Deaf (f a)) : Deaf (x >>= f) := by
  intro d lines
  rw [bind_apply, bind_apply, hx d lines]
  generalize x d = result
  obtain ⟨ending, d'⟩ := result
  cases ending with
  | done a => exact hf a d' lines
  | failed e => rfl
  | unwound p => rfl

theorem deaf_close : Deaf close := by
  intro d lines
  by_cases hopen : d.session.layers = []
  · rw [close_of_closed hopen, close_of_closed (d := d.say lines) hopen]
  · cases hdb : d.host.catalog.databases.get? d.session.database with
    | none =>
      rw [close_of_missing hopen hdb, close_of_missing (d := d.say lines) hopen hdb]
      rfl
    | some db =>
      rw [close_of_open hopen hdb, close_of_open (d := d.say lines) hopen hdb]
      rfl

theorem deaf_commit : Deaf commit :=
  Deaf.bind (fun _ _ => rfl) fun _ => deaf_close

theorem deaf_wrapUp {α : Type} (ending : Ending α) : Deaf (wrapUp commit rollback ending) := by
  cases ending with
  | done a => exact deaf_commit.bind fun _ _ _ => rfl
  | failed e => exact fun _ _ => rfl
  | unwound p => exact fun _ _ => rfl

end Dialog

namespace PasswordCheck

variable {s : PasscheckSettings} {r r' : PasswordRequest}

theorem afterwards_say (ending : Ending (Except BackendError Unit)) (d : Dialog)
    (lines : List LogLine) :
    afterwards (ending, d.say lines) =
      ((afterwards (ending, d)).1, (afterwards (ending, d)).2.say lines) := by
  rw [afterwards, afterwards, Dialog.deaf_wrapUp]
  generalize wrapUp Dialog.commit Dialog.rollback ending d = ended
  obtain ⟨ending, d'⟩ := ended
  cases ending with
  | failed e => rfl
  | unwound p => rfl
  | done result => cases result <;> rfl

/-- The kinds of results of the procedures, when the check has a session of its own. -/
def kindsVia (s : PasscheckSettings) (r : PasswordRequest) (h : Host) : List ResultKind :=
  (inquiry? s h).elim [] (kinds s r)

/-- The text of the error or the panic that ended the procedures there. -/
def troubleVia? (s : PasscheckSettings) (r : PasswordRequest) (h : Host) : Option String :=
  (inquiry? s h).bind (trouble? s r)

/-- The lines that the check logs itself there. -/
def reportedVia (s : PasscheckSettings) (r : PasswordRequest) (h : Host) : List LogLine :=
  (inquiry? s h).elim [] (reported s r)

/-- A check in a session of its own does what it does without its lines, and logs them. -/
theorem checkVia_eq (s : PasscheckSettings) (r : PasswordRequest) (h : Host) :
    checkVia s r h = ((via s (unlogged s r) h).1,
      (via s (unlogged s r) h).2.say (reportedVia s r h)) := by
  rw [checkVia_eq_via, via_eq, via_eq s (unlogged s r), reportedVia]
  cases inquiry? s h with
  | none => simp
  | some d =>
    have hsettle : (check s r).settle d =
        (((unlogged s r).settle d).1, ((unlogged s r).settle d).2.say (reported s r d)) := by
      simp only [settle, check_eq]
      generalize unlogged s r d = result
      obtain ⟨ending, d'⟩ := result
      cases ending <;> rfl
    dsimp only [Option.elim]
    rw [hsettle, afterwards_say]

end PasswordCheck

/-! ## Procedures that log nothing -/

namespace Dialog

variable {d : Dialog}

theorem Local.log_eq {a b : Dialog} (h : Local a b) : b.host.log = a.host.log := by
  obtain ⟨_, _, hhost⟩ := h.host_eq
  rw [hhost]

/-- Of two parts that stay with the session where procedures write only through their
transaction, the one after the other does. -/
theorem local_bind {α β : Type} {x : Attempt Dialog α} {f : α → Attempt Dialog β}
    (hx : ∀ d : Dialog, d.Transactional → Local d (x d).2)
    (hf : ∀ (a : α) (d : Dialog), d.Transactional → Local d (f a d).2) (ht : d.Transactional) :
    Local d ((x >>= f) d).2 :=
  rel_bind (R := fun d d' : Dialog => d.Transactional → d.Local d')
    (fun h h' ht => (h ht).trans (h' ((h ht).transactional ht))) hx hf d ht

theorem local_runIsolated (ht : d.Transactional) (procedures : List QualifiedName)
    (args : Args) : Local d (runIsolated procedures args d).2 := by
  by_cases hopen : d.session.layers = []
  · have hbegin : d.session.beginSub? = .error ⟨"sub-transaction outside a transaction", none⟩ := by
      rw [Session.beginSub?, hopen]
    have hcases := step_cases .beginSub Session.beginSub? d
    rw [hbegin] at hcases
    obtain ⟨s, h, ⟨⟩, -⟩ | ⟨ending, h, hending, hreach, hrun⟩ := hcases
    have hbegin : beginSub d = _ := hrun
    obtain ⟨ending', hended, -⟩ := bind_of_not_done hbegin fun _ => hending
    rw [runIsolated_eq, hended]
    exact hreach
  · exact (isolated_runIsolated procedures args ht hopen).reach

theorem log_close (d : Dialog) : (close d).2.host.log = d.host.log := by
  by_cases hopen : d.session.layers = []
  · rw [close_of_closed hopen]
  · cases hdb : d.host.catalog.databases.get? d.session.database with
    | none => rw [close_of_missing hopen hdb]
    | some db => rw [close_of_open hopen hdb]

theorem log_commit (d : Dialog) : (commit d).2.host.log = d.host.log :=
  kept_bind (fun d : Dialog => d.host.log) (fun _ => rfl) (fun _ => log_close) d

end Dialog

namespace PasswordCheck

variable {s : PasscheckSettings} {r r' : PasswordRequest}

/-- Up to its lines, a check stays with its session where its procedures write only through
their transaction. -/
theorem local_unlogged {d : Dialog} (ht : d.Transactional) :
    Dialog.Local d (unlogged s r d).2 := by
  refine Dialog.local_bind (fun d _ => ?_) (fun asked d ht => ?_) ht
  · obtain ⟨hsession, plan, hhost⟩ := Dialog.looks_evaluate .passcheck s.mode d
    exact ⟨congrArg Session.database hsession, plan, d.host.trace, hhost⟩
  · cases asked with
    | accept reason => exact .refl d
    | reject failure => exact .refl d
    | run procedures =>
      refine Dialog.local_bind (fun d ht => Dialog.local_runIsolated ht procedures _)
        (fun outcome d _ => ?_) ht
      cases outcome <;> exact .refl d

theorem log_afterwards (ending : Ending (Except BackendError Unit)) (d : Dialog) :
    (afterwards (ending, d)).2.log = d.host.log := by
  cases ending with
  | failed e => rfl
  | unwound p => rfl
  | done result =>
    have hcommit := Dialog.log_commit d
    rw [afterwards, wrapUp, bind_apply]
    generalize Dialog.commit d = committed at hcommit
    obtain ⟨ending, d'⟩ := committed
    cases ending with
    | failed e => exact hcommit
    | unwound p => exact hcommit
    | done _ => cases result <;> exact hcommit

section Via

variable {body : Attempt Dialog Unit} {h : Host}
  (hbody : ∀ d : Dialog, d.Transactional → (body d).2.host.log = d.host.log)

include hbody

theorem log_settled {database : String} (ht : h.catalog.TransactionalIn database) :
    ((settled body ⟨database, []⟩ >>= deliver) h).2.log = h.log := by
  have hbegun := Dialog.local_begin ⟨⟨database, []⟩, h⟩
  rw [settled_bind]
  generalize Dialog.begin ⟨⟨database, []⟩, h⟩ = begun at hbegun
  obtain ⟨ending, d⟩ := begun
  cases ending with
  | failed e => exact hbegun.log_eq
  | unwound p => exact hbegun.log_eq
  | done _ =>
    dsimp only
    rw [log_afterwards, settle_snd]
    exact (hbody d (hbegun.transactional ht)).trans hbegun.log_eq

theorem log_via (ht : h.catalog.TransactionalIn s.database) : (via s body h).2.log = h.log := by
  unfold via
  by_cases hmode : s.mode = .off
  · rw [if_pos hmode]
    rfl
  by_cases hdatabase : s.database = ""
  · rw [if_neg hmode, if_pos hdatabase]
    rfl
  obtain ⟨plan, hasked⟩ := Host.databaseExists_host s.database h
  rw [if_neg hmode, if_neg hdatabase, bind_apply]
  generalize Host.databaseExists s.database h = asked at hasked ⊢
  obtain ⟨ending, h₁⟩ := asked
  dsimp only at hasked
  subst hasked
  cases ending with
  | failed e => rfl
  | unwound p => rfl
  | done found =>
    cases found with
    | false => rfl
    | true =>
      obtain ⟨plan', hconnected⟩ := Host.connect_host s.database { h with faults := plan }
      have hsession := Host.connect_session s.database { h with faults := plan }
      dsimp only
      rw [if_neg (by decide), bind_apply, mapError]
      generalize Host.connect s.database { h with faults := plan } = connected
        at hconnected hsession ⊢
      obtain ⟨ending, h₂⟩ := connected
      dsimp only at hconnected
      subst hconnected
      cases ending with
      | failed e => rfl
      | unwound p => rfl
      | done session =>
        obtain rfl := hsession session rfl
        exact log_settled hbody ht

end Via

end PasswordCheck

end Admission
