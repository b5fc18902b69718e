import Admission.Proofs.Decision.Answer
import Admission.Proofs.Decision.Mapped
import Admission.Proofs.Password.Backout
import Admission.Proofs.Procedure.Kinds

set_option autoImplicit false

/-!
# What a worker counts of a request

A worker counts how it came to its decision as soon as it has one, while the transaction
is still open.  It counts one event at most.  A policy rejection and an error of a procedure
are rejections in the end as well, but an acceptance for which no procedure was called is
counted before its commit: where a fault strikes that, the request is rejected.
-/

namespace Admission

open Exposed Attempt

/-! ## Events -/

/-- What was counted of a request, whose procedures ended in results of these kinds. -/
inductive Counted (before after : Metrics) (kinds : List ResultKind) (struck accepted : Prop) :
    Prop where
  /-- Procedures were heard and none of them failed, or the decision failed without them. -/
  | nothing (hafter : after = before) (hfine : ¬ (.raise ∈ kinds ∨ .panic ∈ kinds))
      (hheard : accepted → kinds ≠ [])
  /-- No procedure was to be called.  The acceptance stands unless the commit is struck. -/
  | bypassed (hafter : after = before.count .workerBypassed) (hsilent : kinds = [])
      (hstands : accepted ↔ ¬ struck)
  /-- The mode asks for procedures that are not there. -/
  | rejected (hafter : after = before.count .policyRejections) (hsilent : kinds = [])
      (hrejected : ¬ accepted)
  /-- A procedure raised an error or panicked. -/
  | failed (hafter : after = before.count .procedureErrors)
      (htrouble : .raise ∈ kinds ∨ .panic ∈ kinds) (hrejected : ¬ accepted)

theorem Counted.congr {before after : Metrics} {kinds : List ResultKind}
    {struck struck' accepted accepted' : Prop} (h : Counted before after kinds struck accepted)
    (hstruck : struck' ↔ struck) (haccepted : accepted' ↔ accepted) :
    Counted before after kinds struck' accepted' := by
  rw [propext hstruck, propext haccepted]
  exact h

/-! ## In a transaction -/

namespace Dialog

variable {d d' : Dialog} {mode : Mode} {asked : CatalogCheck}

/-- Begin a transaction and look in it at what the catalog asks for. -/
def ask (mode : Mode) : Attempt Dialog CatalogCheck :=
  begin >>= fun _ => evaluate .clientauth mode

theorem evades_ask (mode : Mode) : (ask mode).Evades .commit := by
  refine Keeps.bind ?_ fun _ => evades_evaluate (fun _ => rfl) (fun _ => rfl) _ _
  exact (evades_strike fun _ => rfl).bind fun _ => evades_step _

/-- A look that is done leaves a transaction open, in a database that is there. -/
theorem finds_of_ask (hmode : mode ≠ .off) (hasked : ask mode d = (.done asked, d')) :
    d'.session.layers ≠ [] ∧ ∃ db : Database,
      d'.host.catalog.databases.get? d'.session.database = some db ∧
        Finds .clientauth mode db asked := by
  obtain ⟨_, d₁, hbegin, hlook⟩ := bind_eq_done_iff.mp hasked
  obtain ⟨hsession, plan, hhost⟩ := looks_evaluate .clientauth mode d₁
  obtain ⟨db, hdb, hfinds⟩ := finds_of_evaluate hmode hlook
  rw [hlook] at hsession hhost
  dsimp only at hsession hhost
  refine ⟨?_, db, by rw [hhost, hsession]; exact hdb, hfinds⟩
  obtain ⟨s, h, hbegun, -, hrun⟩ | ⟨ending, h, hending, -, hrun⟩ :=
    step_cases .begin Session.begin? d
  · have hd₁ : d₁ = ⟨s, h⟩ := congrArg Prod.snd (hbegin.symm.trans hrun)
    rw [hsession, hd₁]
    unfold Session.begin? at hbegun
    split at hbegun
    · cases hbegun
      exact List.cons_ne_nil _ _
    · cases hbegun
  · exact absurd (congrArg Prod.fst (hrun.symm.trans hbegin)) hending

end Dialog

namespace Duty

variable {u : Duty} {d : Dialog} {mode : Mode} {r : Request} {asked : CatalogCheck}

/-- The kinds of results of the procedures that a decision calls. -/
def kinds (mode : Mode) (r : Request) (u : Duty) : List ResultKind :=
  match Dialog.ask mode u.dialog with
  | (.done (.run procedures), d) =>
    Dialog.isolatedKinds procedures (.clientauth r.connection r.status) d
  | _ => []

/-- Do something in the open transaction, and close that. -/
def closing (x : Attempt Duty (Option String)) : Attempt Duty (Option String) :=
  x.observe >>= wrapUp (inSession Dialog.commit) (inSession Dialog.rollback)

/-- Closing a transaction counts nothing. -/
theorem metrics_closing (x : Attempt Duty (Option String)) (u : Duty) :
    (closing x u).2.metrics = (x u).2.metrics := by
  refine Keeps.after_bind (g := Duty.metrics) (fun ending => ?_) x.observe u
  cases ending with
  | done a => exact Keeps.bind (fun _ => rfl) fun _ => keeps_pure a
  | failed e => exact fun _ => rfl
  | unwound p => exact fun _ => rfl

/-- What is done with its transaction was done before that was closed. -/
theorem done_of_closing {x : Attempt Duty (Option String)} {answer : Option String}
    (h : (closing x u).1 = .done answer) : (x u).1 = .done answer := by
  rw [closing, bind_apply, observe] at h
  dsimp only at h
  generalize x u = result at h ⊢
  obtain ⟨ending, v⟩ := result
  cases ending with
  | failed e => cases h
  | unwound p => cases h
  | done a =>
    obtain ⟨_, _, -, hpure⟩ := bind_eq_done_iff.mp (Prod.ext h rfl)
    exact (congrArg Prod.fst hpure :)

theorem execute_of_asked (hasked : Dialog.ask mode u.dialog = (.done asked, d)) :
    execute mode r u = closing (follow r asked) { u with dialog := d } := by
  obtain ⟨_, d₁, hbegin, hlook⟩ := bind_eq_done_iff.mp hasked
  have hbegun : inSession Dialog.begin u = (.done (), { u with dialog := d₁ }) := by
    rw [inSession, onPart_apply, hbegin]
  have hconsult : consult mode r { u with dialog := d₁ } =
      follow r asked { u with dialog := d } := by
    refine bind_of_done ?_
    rw [inSession, onPart_apply, hlook]
  rw [execute_eq, bracket_eq, bind_of_done hbegun, closing, bind_apply, bind_apply, observe,
    observe, hconsult]

/-- Where the look at the catalog is not done, nothing is decided and nothing counted. -/
theorem execute_of_not_asked (r : Request)
    (h : ∀ asked : CatalogCheck, (Dialog.ask mode u.dialog).1 ≠ .done asked) :
    (execute mode r u).2.metrics = u.metrics ∧ (execute mode r u).1 ≠ .done none := by
  rw [Dialog.ask, bind_apply] at h
  rw [execute_eq, bracket_eq, bind_apply, inSession, onPart_apply]
  generalize Dialog.begin u.dialog = begun at h
  obtain ⟨ending, d⟩ := begun
  cases ending with
  | failed e => exact ⟨rfl, by rintro ⟨⟩⟩
  | unwound p => exact ⟨rfl, by rintro ⟨⟩⟩
  | done _ =>
    have hconsult : (consult mode r { u with dialog := d }).2.metrics = u.metrics ∧
        ∀ answer : Option String, (consult mode r { u with dialog := d }).1 ≠ .done answer := by
      rw [consult, bind_apply, inSession, onPart_apply]
      dsimp only at h ⊢
      generalize Dialog.evaluate .clientauth mode d = looked at h
      obtain ⟨ending, d'⟩ := looked
      cases ending with
      | failed e => exact ⟨rfl, by rintro _ ⟨⟩⟩
      | unwound p => exact ⟨rfl, by rintro _ ⟨⟩⟩
      | done asked => exact absurd rfl (h asked)
    obtain ⟨hmetrics, hending⟩ := hconsult
    exact ⟨(metrics_closing _ _).trans hmetrics, fun hdone => hending _ (done_of_closing hdone)⟩

theorem struckBy_execute_iff (hasked : Dialog.ask mode u.dialog = (.done asked, d)) :
    (execute mode r).StruckBy .commit u ↔
      (closing (follow r asked)).StruckBy .commit { u with dialog := d } := by
  have hkept : threatsBy .commit d = threatsBy .commit u.dialog := by
    rw [← Dialog.evades_ask mode u.dialog, hasked]
  rw [StruckBy, StruckBy, execute_of_asked hasked]
  exact ⟨fun h => hkept ▸ h, fun h => hkept ▸ h⟩

/-- An acceptance for which no procedure was called is done exactly if its commit is not
struck. -/
theorem closing_accept_iff {db : Database} {reason : AcceptReason} {v : Duty}
    (hopen : v.dialog.session.layers ≠ [])
    (hdb : v.dialog.host.catalog.databases.get? v.dialog.session.database = some db) :
    (closing (follow r (.accept reason)) v).1 = .done none ↔
      ¬ (closing (follow r (.accept reason))).StruckBy .commit v := by
  let counted : Duty := { v with metrics := v.metrics.count .workerBypassed }
  have hclosing : closing (follow r (.accept reason)) v =
      (inSession Dialog.commit >>= fun _ => pure none) counted := rfl
  have hstruck : (closing (follow r (.accept reason))).StruckBy .commit v ↔
      Dialog.commit.StruckBy .commit v.dialog :=
    (struckBy_bind_iff fun _ => keeps_pure none).trans
      (struckBy_onPart_iff holdsPlan_dialog counted)
  rw [hstruck, hclosing, bind_apply, inSession, onPart_apply]
  obtain ⟨hspared, plan, hcommit⟩ | ⟨hstruck, ending, plan, hending, hcommit⟩ :=
    Dialog.commit_cases_of_open hopen hdb
  · rw [hcommit]
    exact ⟨fun _ => hspared, fun _ => rfl⟩
  · refine ⟨fun hdone => ?_, fun hspared => absurd hstruck hspared⟩
    rw [hcommit] at hdone
    cases ending with
    | done u => exact absurd rfl (hending u)
    | failed e => cases hdone
    | unwound p => cases hdone

/-- What procedures decide counts only their errors, and accepts only if they were heard. -/
theorem counted_run {procedures : List QualifiedName} (hne : procedures ≠ []) (r : Request)
    (v : Duty) (struck : Prop) :
    Counted v.metrics (closing (follow r (.run procedures)) v).2.metrics
      (Dialog.isolatedKinds procedures (.clientauth r.connection r.status) v.dialog) struck
      ((closing (follow r (.run procedures)) v).1 = .done none) := by
  have hraised := Dialog.raised_iff_kinds procedures (.clientauth r.connection r.status) v.dialog
  have hdone : (closing (follow r (.run procedures)) v).1 = .done none →
      (follow r (.run procedures) v).1 = .done none := done_of_closing
  have hheard : (closing (follow r (.run procedures)) v).1 = .done none →
      Dialog.isolatedKinds procedures (.clientauth r.connection r.status) v.dialog ≠ [] := by
    intro haccepted
    obtain ⟨_, _, hrun, -⟩ := bind_eq_done_iff.mp (Prod.ext (hdone haccepted) rfl)
    exact Dialog.isolatedKinds_ne_nil hne (congrArg Prod.fst hrun)
  rw [metrics_closing]
  generalize (closing (follow r (.run procedures)) v).1 = closed at hdone hheard ⊢
  rw [follow, bind_apply, inSession, onPart_apply] at hdone ⊢
  generalize Dialog.runIsolated procedures (.clientauth r.connection r.status) v.dialog = result
    at hraised hdone ⊢
  obtain ⟨ending, d⟩ := result
  cases ending with
  | failed e => exact .nothing rfl (mt hraised.mpr (by rintro ⟨_, ⟨⟩⟩)) hheard
  | unwound p => exact .nothing rfl (mt hraised.mpr (by rintro ⟨_, ⟨⟩⟩)) hheard
  | done o =>
    cases o with
    | accepted => exact .nothing rfl (mt hraised.mpr (by rintro ⟨_, ⟨⟩⟩)) hheard
    | rejected reason => exact .nothing rfl (mt hraised.mpr (by rintro ⟨_, ⟨⟩⟩)) hheard
    | raised e =>
      refine .failed rfl (hraised.mp ⟨e, rfl⟩) fun haccepted => ?_
      cases hdone haccepted

/-- What a decision in a transaction counts. -/
theorem counted_execute (hmode : mode ≠ .off) (r : Request) (u : Duty) :
    Counted u.metrics (execute mode r u).2.metrics (kinds mode r u)
      ((execute mode r).StruckBy .commit u) ((execute mode r u).1 = .done none) := by
  obtain ⟨ending, d, hrun⟩ : ∃ (ending : Ending CatalogCheck) (d : Dialog),
      Dialog.ask mode u.dialog = (ending, d) := ⟨_, _, rfl⟩
  unfold kinds
  rw [hrun]
  cases ending with
  | failed e =>
    obtain ⟨hmetrics, hrejected⟩ := execute_of_not_asked (u := u) r (by rw [hrun]; rintro _ ⟨⟩)
    exact .nothing hmetrics (by simp) fun haccepted => absurd haccepted hrejected
  | unwound p =>
    obtain ⟨hmetrics, hrejected⟩ := execute_of_not_asked (u := u) r (by rw [hrun]; rintro _ ⟨⟩)
    exact .nothing hmetrics (by simp) fun haccepted => absurd haccepted hrejected
  | done asked =>
    obtain ⟨hopen, db, hdb, hfinds⟩ := Dialog.finds_of_ask hmode hrun
    rw [execute_of_asked hrun, struckBy_execute_iff hrun]
    cases hfinds with
    | accept =>
      exact .bypassed (metrics_closing _ _) rfl (closing_accept_iff (r := r) hopen hdb)
    | reject =>
      refine .rejected (metrics_closing _ _) rfl fun haccepted => ?_
      cases done_of_closing haccepted
    | run _ hne => exact counted_run hne r { u with dialog := d } _

end Duty

/-! ## At a worker's desk -/

namespace Shift

variable {s : Shift} {settings : ClientAuthSettings} {slot : Nat} {r : Request}
  {answer : Option String}

/-- What was counted at the desk. -/
def metrics (s : Shift) : Metrics :=
  s.desk.metrics

/-- The kinds of results of the procedures that a worker calls for a request. -/
def kinds (settings : ClientAuthSettings) (r : Request) (s : Shift) : List ResultKind :=
  match precheck settings r.connection, openSession settings.database s with
  | .queue, (.done (.ok session), opened) =>
    Duty.kinds settings.mode r ⟨⟨session, opened.desk.host⟩, opened.desk.metrics⟩
  | _, _ => []

/-- Opening a session commits nothing and counts nothing. -/
theorem openSession_keeps (database : String) :
    (openSession database).Evades .commit ∧ (openSession database).Keeps metrics := by
  have hconnect : (atDesk (Desk.onHost (Host.connect database))).Evades .commit :=
    ((Host.evades_connect (fun _ => rfl) database).onPart Desk.holdsPlan_host).onPart holdsPlan_desk
  constructor
  · refine (keeps_gets _).bind fun w => ?_
    split
    · exact fun _ => rfl
    · refine hconnect.settle.bind fun opened => ?_
      split <;> exact fun _ => rfl
  · refine (keeps_gets _).bind fun w => ?_
    split
    · exact fun _ => rfl
    · refine Keeps.bind (Keeps.settle fun _ => rfl) fun opened => ?_
      split <;> exact fun _ => rfl

/-- Nor does the report of what was decided in the session. -/
theorem report_keeps (answer : Except BackendError (Option String)) :
    (report answer).Evades .commit ∧ (report answer).Keeps metrics := by
  cases answer <;> exact ⟨fun _ => rfl, fun _ => rfl⟩

/-- What a decision in a session counts. -/
theorem counted_answerIn (hmode : settings.mode ≠ .off) (session : Session) (r : Request)
    (s : Shift) :
    Counted s.metrics (answerIn settings r (.ok session) s).2.metrics
      (Duty.kinds settings.mode r ⟨⟨session, s.desk.host⟩, s.desk.metrics⟩)
      ((answerIn settings r (.ok session)).StruckBy .commit s)
      ((answerIn settings r (.ok session) s).1 = .done none) := by
  have hcounted := Duty.counted_execute hmode r ⟨⟨session, s.desk.host⟩, s.desk.metrics⟩
  have hmetrics : (answerIn settings r (.ok session) s).2.metrics =
      (Duty.execute settings.mode r ⟨⟨session, s.desk.host⟩, s.desk.metrics⟩).2.metrics := by
    rw [answerIn, Keeps.after_bind fun answer => (report_keeps answer).2, settle_snd, useSession_eq]
    rfl
  rw [hmetrics]
  refine hcounted.congr ?_ ?_
  · rw [answerIn, struckBy_bind_iff fun answer => (report_keeps answer).1, StruckBy, settle_snd,
      useSession_eq]
    exact Iff.rfl
  · rw [answerIn, bind_apply, settle, useSession_eq]
    generalize Duty.execute settings.mode r ⟨⟨session, s.desk.host⟩, s.desk.metrics⟩ = result
    obtain ⟨ending, u⟩ := result
    -- An error of the session is reported as a rejection.
    cases ending with
    | done rejection => exact Iff.rfl
    | failed e => exact ⟨by rintro ⟨⟩, by rintro ⟨⟩⟩
    | unwound p => exact ⟨by rintro ⟨⟩, by rintro ⟨⟩⟩

/-- What is exempt is accepted without a procedure, and without a commit that a fault could
strike. -/
theorem counted_of_exempt (hcheck : precheck settings r.connection ≠ .queue) (s : Shift) :
    Counted s.metrics (decide settings r s).2.metrics (kinds settings r s)
      ((decide settings r).StruckBy .commit s) ((decide settings r s).1 = .done none) := by
  have hdecide : decide settings r = (do atDesk (Desk.count .workerBypassed); return none) := by
    rw [decide]
    cases hc : precheck settings r.connection with
    | skip reason => rfl
    | disabled => rfl
    | queue => exact absurd hc hcheck
  have hsilent : kinds settings r s = [] := by
    unfold kinds
    split
    · exact absurd ‹_› hcheck
    · rfl
  have hspared : ¬ (decide settings r).StruckBy .commit s := by
    rw [hdecide]
    exact Keeps.not_struckBy (fun _ => rfl) s
  refine .bypassed ?_ hsilent ?_
  · rw [hdecide]
    rfl
  · rw [hdecide] at hspared ⊢
    exact ⟨fun _ => hspared, fun _ => rfl⟩

/-- A worker that has no session to decide in rejects, and counts nothing. -/
theorem decide_of_not_opened (hcheck : precheck settings r.connection = .queue)
    (h : ∀ session : Session, (openSession settings.database s).1 ≠ .done (.ok session)) :
    (decide settings r s).2.metrics = s.metrics ∧ (decide settings r s).1 ≠ .done none ∧
      kinds settings r s = [] := by
  have hkept := (openSession_keeps settings.database).2 s
  rw [decide_of_queue hcheck, bind_apply]
  unfold kinds
  rw [hcheck]
  generalize openSession settings.database s = result at h hkept ⊢
  obtain ⟨ending, opened⟩ := result
  cases ending with
  | failed e => exact ⟨hkept, by rintro ⟨⟩, rfl⟩
  | unwound p => exact ⟨hkept, by rintro ⟨⟩, rfl⟩
  | done result =>
    cases result with
    | error e => exact ⟨hkept, by rintro ⟨⟩, rfl⟩
    | ok session => exact absurd rfl (h session)

/-- What a worker's decision counts. -/
theorem counted_decide (settings : ClientAuthSettings) (r : Request) (s : Shift) :
    Counted s.metrics (decide settings r s).2.metrics (kinds settings r s)
      ((decide settings r).StruckBy .commit s) ((decide settings r s).1 = .done none) := by
  by_cases hcheck : precheck settings r.connection = .queue
  · by_cases hopened : ∃ session : Session,
        (openSession settings.database s).1 = .done (.ok session)
    · obtain ⟨session, hdone⟩ := hopened
      obtain ⟨-, -, hmode⟩ := precheck_eq_queue_iff.mp hcheck
      obtain ⟨hevades, hkeeps⟩ := openSession_keeps settings.database
      have hkept := hkeeps s
      have hrun : openSession settings.database s =
          (.done (.ok session), (openSession settings.database s).2) := Prod.ext hdone rfl
      have hkinds : kinds settings r s = Duty.kinds settings.mode r
          ⟨⟨session, (openSession settings.database s).2.desk.host⟩,
            (openSession settings.database s).2.desk.metrics⟩ := by
        rw [kinds, hcheck, hrun]
      have hcounted := counted_answerIn hmode session r (openSession settings.database s).2
      rw [hkept] at hcounted
      rw [hkinds, decide_of_queue hcheck, bind_of_done hrun]
      exact hcounted.congr (struckBy_bind_of_done hevades hrun) Iff.rfl
    · obtain ⟨hmetrics, hrejected, hkinds⟩ :=
        decide_of_not_opened hcheck fun session hdone => hopened ⟨session, hdone⟩
      rw [hkinds]
      exact .nothing hmetrics (by simp) fun haccepted => absurd haccepted hrejected
  · exact counted_of_exempt hcheck s

/-! ## What is published -/

/-- The poll finds this request and comes to this answer, and the slot takes it. -/
structure Publishes (settings : ClientAuthSettings) (s : Shift) (slot : Nat) (r : Request)
    (answer : Option String) : Prop where
  found : found s.worker (s.desk.host.slot s.worker.table) = some (slot, r)
  decided : (decide settings r (takePending s).2).1 = .done answer
  taken : (((decide settings r (takePending s).2).2.desk.host.slot s.worker.table slot).answer? r
    (answer.map Text.singleLine)).isSome

theorem takePending_keeps : takePending.Evades .commit ∧ takePending.Keeps metrics := by
  refine ⟨aloof_takePending.evades _, (keeps_gets _).bind fun w => ?_⟩
  split <;> exact fun _ => rfl

theorem publish_keeps (slot : Nat) (r : Request) (rejection : Option String) :
    (publish slot r rejection).Evades .commit ∧ (publish slot r rejection).Keeps metrics := by
  refine ⟨(aloof_publish slot r rejection).evades _, (keeps_gets _).bind fun w => ?_⟩
  refine Keeps.bind (fun _ => rfl) fun answered => ?_
  split <;> exact fun _ => rfl

/-- A poll that publishes is done, and the slot of the request holds the answer as far as it
fits. -/
theorem Publishes.result?_eq (h : Publishes settings s slot r answer)
    (hm : s.desk.host.Maps s.worker.table) :
    (poll settings s).1 = .done true ∧
      ((poll settings s).2.desk.host.slot s.worker.table slot).done = true ∧
      ((poll settings s).2.desk.host.slot s.worker.table slot).result? =
        Slot.kept (answer.map Text.singleLine) := by
  obtain ⟨hfound, hdone, htaken⟩ := h
  obtain ⟨hslot, -, -⟩ := of_found_eq_some hfound
  obtain ⟨hpoll, hscan⟩ := poll_of_found settings hm hfound
  have htable := ((stays_decide settings r).table_eq _).trans (handled_takePending s).table_eq
  have hmaps := maps_decide (hscan.maps hm) settings r
  obtain ⟨decided, hrun⟩ : ∃ decided : Shift,
      decide settings r (takePending s).2 = (.done answer, decided) := ⟨_, Prod.ext hdone rfl⟩
  rw [hrun] at htaken htable hmaps
  obtain ⟨after, hpublish, -, hleft⟩ := publish_spec (s := decided) (by rw [htable]; exact hmaps)
    (by rw [htable]; exact hslot) r (answer.map Text.singleLine)
  obtain ⟨answered, hanswer⟩ := Option.isSome_iff_exists.mp htaken
  obtain ⟨-, -, rfl⟩ := Slot.answer?_eq_some_iff.mp hanswer
  rw [htable, hanswer] at hleft
  have hserved : poll settings s = (.done true, after) := by
    rw [hpoll, serve, bind_of_done hrun, bind_of_done hpublish]
    rfl
  rw [hserved, hleft.slot_self]
  exact ⟨rfl, rfl, Slot.result?_setResult _ _⟩

/-- A poll counts what its decision counts, and commits nothing else. -/
theorem counted_poll (hm : s.desk.host.Maps s.worker.table)
    (hfound : found s.worker (s.desk.host.slot s.worker.table) = some (slot, r)) :
    Counted s.metrics (poll settings s).2.metrics (kinds settings r (takePending s).2)
      ((poll settings).StruckBy .commit s)
      ((decide settings r (takePending s).2).1 = .done none) := by
  obtain ⟨hpoll, -⟩ := poll_of_found settings hm hfound
  have hpublishes (rejection : Option String) :
      (do publish slot r (rejection.map Text.singleLine); return true :
        Attempt Shift Bool).Evades .commit ∧
      (do publish slot r (rejection.map Text.singleLine); return true :
        Attempt Shift Bool).Keeps metrics := by
    obtain ⟨hevades, hkeeps⟩ := publish_keeps slot r (rejection.map Text.singleLine)
    exact ⟨hevades.bind fun _ => keeps_pure true, hkeeps.bind fun _ => keeps_pure true⟩
  have hcounted := counted_decide settings r (takePending s).2
  rw [takePending_keeps.2 s] at hcounted
  rw [hpoll, serve, Keeps.after_bind fun rejection => (hpublishes rejection).2]
  refine hcounted.congr ?_ Iff.rfl
  rw [← struckBy_bind_iff fun rejection => (hpublishes rejection).1, StruckBy, StruckBy, hpoll,
    takePending_keeps.1 s]
  exact Iff.rfl

/-- A poll that publishes its answer counts one event at most.  If that is a bypass, no
procedure was called, and the slot holds an acceptance unless a fault struck the commit; if
it is a policy rejection, no procedure was called and the slot holds a rejection; and if it
is an error of a procedure, one raised an error or panicked and the slot holds a
rejection. -/
theorem poll_counted (hm : s.desk.host.Maps s.worker.table)
    (h : Publishes settings s slot r answer) :
    (poll settings s).1 = .done true ∧
      ((poll settings s).2.desk.host.slot s.worker.table slot).done = true ∧
      Counted s.metrics (poll settings s).2.metrics (kinds settings r (takePending s).2)
        ((poll settings).StruckBy .commit s)
        (((poll settings s).2.desk.host.slot s.worker.table slot).result? = none) := by
  obtain ⟨hdone, hanswered, hresult⟩ := h.result?_eq hm
  refine ⟨hdone, hanswered, (counted_poll hm h.found).congr Iff.rfl ?_⟩
  rw [hresult, h.decided, Slot.kept, Option.map_eq_none_iff, Option.map_eq_none_iff]
  simp

end Shift

/-! ## Alice, when a transaction cannot be committed -/

section Alice

open Traffic

/-- A catalog whose one database has no registry. -/
def bareCatalog : Catalog :=
  ⟨⟨[("postgres", {})]⟩⟩

/-- The worker comes to alice when nothing is registered, and cannot commit that. -/
def aliceUncommitted : Shift :=
  ⟨loneWorker, { aliceClaimed with host := { aliceClaimed.host with
    catalog := bareCatalog, faults := .failing .commit "injected" 1 } }⟩

/-- What the poll finds and answers, and what it counts. -/
theorem aliceUncommitted_run :
    aliceUncommitted.desk.host.memory.segments.length = 1 ∧
      Shift.found loneWorker (aliceUncommitted.desk.host.slot lone) =
        some (0, (alices 0).request 1) ∧
      (Shift.decide { mode := .on } ((alices 0).request 1)
        (Shift.takePending aliceUncommitted).2).1.value? = some (some "injected") ∧
      (((Shift.decide { mode := .on } ((alices 0).request 1)
        (Shift.takePending aliceUncommitted).2).2.desk.host.slot lone 0).answer?
          ((alices 0).request 1) (some "injected")).isSome ∧
      (Shift.poll { mode := .on } aliceUncommitted).2.metrics.workerBypassed =
        aliceUncommitted.metrics.workerBypassed + 1 ∧
      ((Shift.poll { mode := .on } aliceUncommitted).2.desk.host.slot lone 0).result? =
        some "injected" := by
  decide +kernel

theorem publishes_aliceUncommitted :
    Shift.Publishes { mode := .on } aliceUncommitted 0 ((alices 0).request 1)
      (some "injected") := by
  obtain ⟨-, hfound, hanswer, htaken, -⟩ := aliceUncommitted_run
  exact ⟨hfound, Ending.value?_eq_some_iff.mp hanswer, htaken⟩

theorem maps_aliceUncommitted : aliceUncommitted.desk.host.Maps lone := by
  obtain ⟨hlength, -⟩ := aliceUncommitted_run
  exact ⟨by rw [hlength]; exact Nat.zero_lt_one, by decide⟩

/-- Alice's poll counts what it answers for. -/
theorem Shift.poll_counted_aliceUncommitted :
    (Shift.poll { mode := .on } aliceUncommitted).1 = .done true ∧
      Counted aliceUncommitted.metrics (Shift.poll { mode := .on } aliceUncommitted).2.metrics
        (Shift.kinds { mode := .on } ((alices 0).request 1) (Shift.takePending aliceUncommitted).2)
        ((Shift.poll { mode := .on }).StruckBy .commit aliceUncommitted)
        (((Shift.poll { mode := .on } aliceUncommitted).2.desk.host.slot lone 0).result? =
          none) := by
  obtain ⟨hdone, -, hcounted⟩ :=
    Shift.poll_counted maps_aliceUncommitted publishes_aliceUncommitted
  exact ⟨hdone, hcounted⟩

/-- A rejection may be counted as a bypass. -/
theorem Shift.poll_counts_bypass_of_rejection :
    ¬ ∀ (settings : ClientAuthSettings) (s : Shift) (slot : Nat) (r : Request)
        (answer : Option String),
      s.desk.host.Maps s.worker.table → s.desk.host.faults.ErrorsOnly →
        Shift.Publishes settings s slot r answer →
          (Shift.poll settings s).2.metrics.workerBypassed = s.metrics.workerBypassed + 1 →
            ((Shift.poll settings s).2.desk.host.slot s.worker.table slot).result? = none := by
  intro haccepts
  obtain ⟨-, -, -, -, hbypassed, hresult⟩ := aliceUncommitted_run
  have haccepted := haccepts { mode := .on } aliceUncommitted 0 _ _ maps_aliceUncommitted
    (FaultPlan.errorsOnly_failing _ _ _) publishes_aliceUncommitted hbypassed
  have hnone := haccepted.symm.trans hresult
  cases hnone

end Alice

end Admission
