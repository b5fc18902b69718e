import Admission.Proofs.Decision.Ruling
import Admission.Worker

set_option autoImplicit false

/-!
# Deciding in a transaction

A request is decided in a transaction of its own.  Where no fault is planned, the
decision is what the database decides, and its values are committed.  Whatever faults
are planned: when the transaction is done the session is at rest, and when a fault
struck nothing is accepted and no value changes.
-/

namespace Admission

open Exposed Attempt

namespace Dialog

variable {d : Dialog}

/-- A commit takes the writes and leaves the session at rest, or is not done and takes
none. -/
theorem commit_cases (d : Dialog) :
    (∃ (c : Catalog) (plan : FaultPlan), d.session.commitTo? d.host.catalog = .ok c ∧
      commit d = (.done (), ⟨d.session.rollback, { d.host with faults := plan, catalog := c }⟩)) ∨
    ∃ (ending : Ending Unit) (s : Session) (plan : FaultPlan), ending ≠ .done () ∧
      commit d = (ending, ⟨s, { d.host with faults := plan }⟩) := by
  obtain ⟨-, plan, hhost⟩ := looks_strike .commit d
  have hsession : (onHost (Host.strike .commit) d).2.session = d.session := rfl
  rw [commit_eq, bind_apply]
  generalize onHost (Host.strike .commit) d = struck at hhost hsession
  obtain ⟨ending, ⟨s, h⟩⟩ := struck
  subst hsession hhost
  cases ending with
  | failed e => exact .inr ⟨.failed e, _, plan, by rintro ⟨⟩, rfl⟩
  | unwound p => exact .inr ⟨.unwound p, _, plan, by rintro ⟨⟩, rfl⟩
  | done _ =>
    let struck : Dialog := ⟨d.session, { d.host with faults := plan }⟩
    by_cases hopen : d.session.layers = []
    · exact .inr ⟨.failed _, _, plan, by rintro ⟨⟩, close_of_closed (d := struck) hopen⟩
    · cases hdb : d.host.catalog.databases.get? d.session.database with
      | none =>
        exact .inr ⟨.failed _, _, plan, by rintro ⟨⟩,
          close_of_missing (d := struck) hopen hdb⟩
      | some db =>
        exact .inl ⟨_, plan, Session.commitTo?_of_get? hdb, close_of_open (d := struck) hopen hdb⟩

end Dialog

/-! ## The parts of a decision -/

instance : Exposed Duty where
  faults u := u.dialog.host.faults
  cleared u := { u with dialog := cleared u.dialog }
  faults_cleared _ := rfl
  cleared_eq_self u hf := by rw [cleared_eq_self u.dialog hf]

namespace Duty

variable {α : Type} {u : Duty} {mode : Mode} {r : Request}

theorem holdsPlan_dialog : HoldsPlan Duty.dialog fun u dialog => { u with dialog } :=
  ⟨fun _ => rfl, fun _ _ => rfl, fun _ => rfl, fun _ _ => rfl⟩

/-- Do what the catalog asks for. -/
def follow (r : Request) : CatalogCheck → Attempt Duty (Option String)
  | .accept _ => do
    count .workerBypassed
    return none
  | .reject failure => do
    count .policyRejections
    return some (failure.message .clientauth)
  | .run procedures => do
    let outcome ← inSession <| Dialog.runIsolated procedures (.clientauth r.connection r.status)
    noteOutcome r.connection.user outcome
    return outcome.rejection?

/-- Look at the catalog, and do what it asks for. -/
def consult (mode : Mode) (r : Request) : Attempt Duty (Option String) :=
  inSession (Dialog.evaluate .clientauth mode) >>= follow r

theorem execute_eq (mode : Mode) (r : Request) :
    execute mode r =
      .bracket (inSession Dialog.begin) (inSession Dialog.commit) (inSession Dialog.rollback)
        (consult mode r) := rfl

theorem orderly_count (event : Counter) : (count event).Orderly :=
  orderly_modify (fun _ => rfl) fun _ => rfl

theorem orderly_noteOutcome (user : String) (o : Outcome) : (noteOutcome user o).Orderly := by
  cases o with
  | accepted => exact orderly_pure ()
  | rejected reason => exact orderly_pure ()
  | raised e =>
    refine (orderly_count _).bind fun _ => Orderly.onPart holdsPlan_dialog ?_
    refine Orderly.onPart Dialog.holdsPlan_host ?_
    exact orderly_modify (fun _ => rfl) fun _ => rfl

theorem tame_follow (r : Request) (check : CatalogCheck) : (follow r check).Tame := by
  cases check with
  | accept reason => exact ((orderly_count _).bind fun _ => orderly_pure _).tame
  | reject failure => exact ((orderly_count _).bind fun _ => orderly_pure _).tame
  | run procedures =>
    refine ((Dialog.tame_runIsolated _ _).onPart holdsPlan_dialog).bind fun outcome => ?_
    exact ((orderly_noteOutcome _ _).bind fun _ => orderly_pure _).tame

theorem tame_consult (mode : Mode) (r : Request) : (consult mode r).Tame :=
  ((Dialog.orderly_evaluate .clientauth mode).onPart holdsPlan_dialog).tame.bind (tame_follow r)

/-- Faults matter to a decision only if they strike it, and it panics only where that is
planned. -/
theorem tame_execute (mode : Mode) (r : Request) : (execute mode r).Tame := by
  have hpart {x : Attempt Dialog Unit} (hx : x.Orderly) : (inSession x).Tame :=
    (hx.onPart holdsPlan_dialog).tame
  rw [execute_eq]
  exact (hpart Dialog.orderly_begin).bracket (hpart Dialog.orderly_commit)
    (hpart Dialog.orderly_rollback) (tame_consult mode r)

/-! ## Whatever is planned -/

/-- What deciding in an open transaction leaves, however it ends. -/
structure Consulted (before : Duty) (ending : Ending (Option String)) (after : Duty) : Prop where
  database_eq : after.dialog.session.database = before.dialog.session.database
  host_eq : ∃ (plan : FaultPlan) (trace : List String) (log : List LogLine),
    after.dialog.host = { before.dialog.host with faults := plan, trace, log }
  depth_eq : ∀ rejection : Option String, ending = .done rejection →
    after.dialog.session.depth = before.dialog.session.depth
  /-- When a fault struck, nothing is accepted and nothing is written. -/
  fails_closed : threats after < threats before → ∀ rejection : Option String,
    ending = .done rejection → rejection ≠ none ∧ after.dialog.session = before.dialog.session

theorem noteOutcome_apply (user : String) (o : Outcome) (u : Duty) :
    ∃ (log : List LogLine) (metrics : Metrics), noteOutcome user o u =
      (.done (), ⟨{ u.dialog with host := { u.dialog.host with log } }, metrics⟩) := by
  cases o with
  | accepted => exact ⟨u.dialog.host.log, u.metrics, rfl⟩
  | rejected reason => exact ⟨u.dialog.host.log, u.metrics, rfl⟩
  | raised e => exact ⟨_, _, rfl⟩

theorem consulted_follow (ht : u.dialog.Transactional) (hopen : u.dialog.session.layers ≠ [])
    (check : CatalogCheck) : Consulted u (follow r check u).1 (follow r check u).2 := by
  cases check with
  | accept reason =>
    exact ⟨rfl, ⟨_, _, _, rfl⟩, fun _ _ => rfl, fun h => absurd h (Nat.lt_irrefl _)⟩
  | reject failure =>
    exact ⟨rfl, ⟨_, _, _, rfl⟩, fun _ _ => rfl, fun h => absurd h (Nat.lt_irrefl _)⟩
  | run procedures =>
    have hrun := Dialog.isolated_runIsolated procedures (.clientauth r.connection r.status) ht hopen
    have hraised (o : Outcome) := Dialog.raised_of_struck (d := u.dialog) (o := o) procedures
      (.clientauth r.connection r.status)
    obtain ⟨plan, trace, hhost⟩ := hrun.reach.host_eq
    rw [follow, bind_apply, inSession, onPart_apply]
    rw [Struck] at hraised
    generalize Dialog.runIsolated procedures (.clientauth r.connection r.status) u.dialog = result
      at hrun hraised hhost
    obtain ⟨ending, d⟩ := result
    cases ending with
    | failed e =>
      exact ⟨hrun.reach.database_eq, ⟨plan, trace, _, hhost⟩, by rintro _ ⟨⟩, by rintro _ _ ⟨⟩⟩
    | unwound p =>
      exact ⟨hrun.reach.database_eq, ⟨plan, trace, _, hhost⟩, by rintro _ ⟨⟩, by rintro _ _ ⟨⟩⟩
    | done o =>
      obtain ⟨log, metrics, hnote⟩ := noteOutcome_apply r.connection.user o { u with dialog := d }
      dsimp only
      rw [bind_of_done hnote]
      refine ⟨hrun.reach.database_eq, ⟨plan, trace, log, ?_⟩, fun _ _ => hrun.depth_eq o rfl, ?_⟩
      · rw [pure_apply]
        dsimp only at hhost ⊢
        rw [hhost]
      · rintro hstruck _ ⟨⟩
        obtain ⟨e, rfl⟩ := hraised o hstruck rfl
        exact ⟨Option.some_ne_none _, hrun.session_eq e rfl⟩

theorem consulted_consult (mode : Mode) (r : Request) (ht : u.dialog.Transactional)
    (hopen : u.dialog.session.layers ≠ []) :
    Consulted u (consult mode r u).1 (consult mode r u).2 := by
  have hlook := Dialog.orderly_evaluate .clientauth mode
  obtain ⟨hsession, plan, hhost⟩ := Dialog.looks_evaluate .clientauth mode u.dialog
  have hspared (check : CatalogCheck) (h : (Dialog.evaluate .clientauth mode u.dialog).1 =
      .done check) := (hlook.candid.spared_of_done h).threats_eq
  rw [consult, bind_apply, inSession, onPart_apply]
  generalize Dialog.evaluate .clientauth mode u.dialog = result at hsession hhost hspared
  obtain ⟨ending, ⟨session, host⟩⟩ := result
  dsimp only at hsession hhost
  subst hsession hhost
  cases ending with
  | failed e => exact ⟨rfl, ⟨plan, _, _, rfl⟩, by rintro _ ⟨⟩, by rintro _ _ ⟨⟩⟩
  | unwound p => exact ⟨rfl, ⟨plan, _, _, rfl⟩, by rintro _ ⟨⟩, by rintro _ _ ⟨⟩⟩
  | done check =>
    let looked : Duty :=
      { u with dialog := ⟨u.dialog.session, { u.dialog.host with faults := plan }⟩ }
    have hfollow := consulted_follow (u := looked) (r := r) ht hopen check
    have hthreats : threats looked = threats u := hspared check rfl
    obtain ⟨plan', trace, log, hhost⟩ := hfollow.host_eq
    exact ⟨hfollow.database_eq, ⟨plan', trace, log, hhost⟩, hfollow.depth_eq,
      fun hstruck => hfollow.fails_closed (hthreats ▸ hstruck)⟩

/-- What a decision in a transaction of its own leaves, however it ends. -/
structure Executed (before : Duty) (ending : Ending (Option String)) (after : Duty) : Prop where
  host_eq : ∃ (c : Catalog) (plan : FaultPlan) (trace : List String) (log : List LogLine),
    after.dialog.host = { before.dialog.host with catalog := c, faults := plan, trace, log }
  /-- When a fault struck, nothing is accepted and no value changes. -/
  fails_closed : threats after < threats before →
    (∀ rejection : Option String, ending = .done rejection → rejection ≠ none) ∧
      after.dialog.host.catalog.committed? = before.dialog.host.catalog.committed?
  /-- Only a decision that is done changes the catalog. -/
  catalog_eq : (∀ rejection : Option String, ending ≠ .done rejection) →
    after.dialog.host.catalog = before.dialog.host.catalog

theorem executed_of_not_done {ending : Ending (Option String)} {after : Duty}
    (hending : ∀ rejection : Option String, ending ≠ .done rejection)
    (hhost : ∃ (plan : FaultPlan) (trace : List String) (log : List LogLine),
      after.dialog.host = { u.dialog.host with faults := plan, trace, log }) :
    Executed u ending after := by
  obtain ⟨plan, trace, log, hhost⟩ := hhost
  have hcatalog : after.dialog.host.catalog = u.dialog.host.catalog := by rw [hhost]
  refine ⟨⟨u.dialog.host.catalog, plan, trace, log, hhost⟩, fun _ => ⟨fun rejection h => ?_, ?_⟩,
    fun _ => hcatalog⟩
  · exact absurd h (hending rejection)
  · rw [hcatalog]

/-- A commit of nothing but empty levels changes no value. -/
theorem committed?_of_pending_nil {s : Session} {before after : Catalog}
    (hpending : s.pending = []) (h : s.commitTo? before = .ok after) :
    after.committed? = before.committed? := by
  cases hdb : before.databases.get? s.database with
  | none =>
    rw [Session.commitTo?_of_missing hdb] at h
    cases h
  | some db =>
    rw [Session.commitTo?_of_get? hdb] at h
    cases h
    funext name
    rw [Session.committed?_committed hdb]
    split
    · rename_i hname
      rw [hname, Session.get?_eq, hpending, Values.overlaid_nil]
    · rfl

/-- Closing the transaction of a decision that had written nothing before. -/
theorem executed_wrapUp (opened : Duty) {v : Duty} {ending : Ending (Option String)}
    (hempty : opened.dialog.session.pending = [])
    (hhost : ∃ (plan : FaultPlan) (trace : List String),
      opened.dialog.host = { u.dialog.host with faults := plan, trace })
    (hthreats : threats opened = threats u) (h : Consulted opened ending v) :
    Executed u (wrapUp (inSession Dialog.commit) (inSession Dialog.rollback) ending v).1
      (wrapUp (inSession Dialog.commit) (inSession Dialog.rollback) ending v).2 := by
  obtain ⟨_, _, hopened⟩ := hhost
  obtain ⟨plan, trace, log, hleft⟩ := h.host_eq
  rw [hopened] at hleft
  cases ending with
  | failed e => exact executed_of_not_done (by rintro _ ⟨⟩) ⟨plan, trace, log, hleft⟩
  | unwound p => exact executed_of_not_done (by rintro _ ⟨⟩) ⟨plan, trace, log, hleft⟩
  | done rejection =>
    obtain ⟨c, plan', hcommit, hrun⟩ | ⟨ending, s, plan', hending, hrun⟩ :=
      Dialog.commit_cases v.dialog
    -- A commit that is done was not struck, so what was lost was lost before it.
    · rw [wrapUp, bind_apply, inSession, onPart_apply]
      have hspared := (Dialog.orderly_commit.candid.spared_of_done (s := v.dialog) (a := ())
        (by rw [hrun])).threats_eq
      rw [hrun] at hspared ⊢
      refine ⟨⟨c, plan', trace, log, ?_⟩, fun hstruck => ?_, fun h => absurd rfl (h rejection)⟩
      · dsimp only [pure_apply]
        rw [hleft]
      · have hlost : threats v < threats opened := by
          rw [hthreats]
          exact Nat.lt_of_le_of_lt (Nat.le_of_eq hspared.symm) hstruck
        obtain ⟨hreject, hkept⟩ := h.fails_closed hlost rejection rfl
        have hcatalog : v.dialog.host.catalog = u.dialog.host.catalog := by rw [hleft]
        rw [hcatalog] at hcommit
        refine ⟨?_, committed?_of_pending_nil (by rw [hkept]; exact hempty) hcommit⟩
        rintro _ ⟨⟩
        exact hreject
    · have hcommit : inSession Dialog.commit v =
          (ending, { v with dialog := ⟨s, { v.dialog.host with faults := plan' }⟩ }) := by
        rw [inSession, onPart_apply, hrun]
      obtain ⟨ending', hended, hne⟩ :=
        bind_of_not_done (f := fun _ => pure rejection) hcommit fun _ => hending
      rw [wrapUp, hended]
      exact executed_of_not_done hne ⟨plan', trace, log, by rw [hleft]⟩

theorem executed_execute (mode : Mode) (r : Request) (ht : u.dialog.Transactional)
    (hclosed : u.dialog.session.layers = []) :
    Executed u (execute mode r u).1 (execute mode r u).2 := by
  have hbegin := Dialog.step_cases .begin Session.begin? u.dialog
  rw [Session.begin?, hclosed] at hbegin
  rw [execute_eq, bracket_eq]
  obtain ⟨s, h, ⟨⟩, hreach, hrun⟩ | ⟨ending, h, hending, hreach, hrun⟩ := hbegin
  all_goals replace hrun : Dialog.begin u.dialog = _ := hrun
  · rw [bind_apply, inSession, onPart_apply]
    let opened : Duty := { u with dialog := ⟨{ u.dialog.session with layers := [[]] }, h⟩ }
    have hlocal := hreach.of_session (s := opened.dialog.session) rfl
    have hthreats := (Dialog.orderly_begin.candid.spared_of_done (s := u.dialog) (a := ())
      (by rw [hrun])).threats_eq
    rw [hrun] at hthreats ⊢
    exact executed_wrapUp opened rfl hlocal.host_eq hthreats
      (consulted_consult mode r (hlocal.transactional ht) (List.cons_ne_nil _ _))
  · obtain ⟨plan, trace, hhost⟩ := hreach.host_eq
    have hbegin : inSession Dialog.begin u =
        (ending, { u with dialog := ⟨u.dialog.session, h⟩ }) := by
      rw [inSession, onPart_apply, hrun]
    obtain ⟨ending', hended, hne⟩ := bind_of_not_done hbegin fun _ => hending
    rw [hended]
    exact executed_of_not_done hne ⟨plan, trace, _, hhost⟩

end Duty

end Admission
