import Admission.Proofs.Decision.Execute
import Admission.Proofs.Password.Atomic

set_option autoImplicit false

/-!
# What a failed check commits

A check in a session of its own commits its transaction even when the password is
refused.  Where a call failed, what the transaction holds at that time decides what is
committed: nothing, unless it was the release that failed, whose level then goes into the
database with all that the procedures wrote.
-/

namespace Admission

open Exposed Attempt

/-! ## What procedures leave behind -/

namespace Dialog

variable {d d' : Dialog} {db : Database} {feature : Feature} {mode : Mode}
  {procedures : List QualifiedName} {args : Args}

theorem Local.catalog_eq {a b : Dialog} (h : Local a b) : b.host.catalog = a.host.catalog := by
  obtain ⟨_, _, hhost⟩ := h.host_eq
  rw [hhost]

/-- The procedures to run are those that the catalog has entries for. -/
theorem entries_of_run
    (hasked : evaluate feature mode d = (.done (.run procedures), d'))
    (hdb : d.host.catalog.databases.get? d.session.database = some db) :
    procedures.map (·.key) = db.entriesFor feature := by
  by_cases hmode : mode = .off
  · rw [evaluate, if_pos hmode] at hasked
    cases hasked
  · obtain ⟨found, hfound, hfinds⟩ := finds_of_evaluate hmode hasked
    rw [hdb] at hfound
    cases hfound
    cases hfinds with
    | run hnames _ => exact hnames

/-- Where a fault strikes the release, the session sees what the procedures left. -/
theorem values_of_stranded (hopen : d.session.layers ≠ [])
    (hdb : d.host.catalog.databases.get? d.session.database = some db) (ht : db.Transactional)
    (hstruck : (runIsolated procedures args).StruckBy .release d) :
    (runIsolated procedures args d).2.values =
      (db.hear args (procedures.map (·.key)) d.values).2 := by
  have htransactional : d.Transactional := fun found hfound => by
    rw [hdb] at hfound
    exact Option.some.inj hfound ▸ ht
  obtain ⟨hspared, -⟩ | ⟨h, called, hbegin, hcalled, hleft, hrun, hiff⟩ :=
    runIsolated_cases procedures args hopen
  · exact absurd hstruck hspared
  obtain ⟨hspared, -⟩ | ⟨hleave, hsession⟩ := leave_cases hleft hopen called.1
  · exact absurd (hiff.mp hstruck) hspared
  obtain ⟨ending, d₂⟩ := called
  obtain ⟨rejection, rfl⟩ := done_of_struckBy_leave hleave
  -- What came before the release is done and so was spared: the calls are those that are
  -- made where nothing is planned.
  have hcatalog := (local_beginSub d).catalog_eq
  rw [hbegin] at hcatalog
  have hcalls := ((candid_callInOrder args procedures).spared_of_done
    (congrArg Prod.fst hcalled)).cleared_eq
  rw [hcalled] at hcalls
  obtain ⟨-, hvalues, trace, hkept⟩ := callInOrder_of_unplanned
    (d := cleared (⟨d.session.nested, h⟩ : Dialog)) args procedures rfl (List.cons_ne_nil _ _)
    (hcatalog ▸ hdb) ht
  rw [hcalls] at hvalues hkept
  have hbegun : Dialog.values ⟨d.session.nested, h⟩ = d.values := values_eq_of rfl rfl hcatalog
  have hreach := (isolated_runIsolated procedures args htransactional hopen).reach.catalog_eq
  have hsees : (runIsolated procedures args d).2.values = d₂.values := by
    have hkept : d₂.host.catalog = h.catalog := (congrArg Host.catalog hkept :)
    rw [← hrun] at hsession
    refine values_eq_of (congrArg Session.database hsession) (congrArg Session.pending hsession) ?_
    rw [hreach, hkept]
    exact hcatalog.symm
  rw [hsees, ← hbegun]
  exact hvalues

/-! ## The commit -/

/-- A commit in an open transaction of a database that is there takes the writes, or a fault
strikes it and it leaves session and catalog alone. -/
theorem commit_cases_of_open (hopen : d.session.layers ≠ [])
    (hdb : d.host.catalog.databases.get? d.session.database = some db) :
    (¬ commit.StruckBy .commit d ∧ ∃ plan : FaultPlan, commit d =
      (.done (), ⟨d.session.rollback, { d.host with
        faults := plan, catalog := d.session.committed d.host.catalog db }⟩)) ∨
    commit.StruckBy .commit d ∧ ∃ (ending : Ending Unit) (plan : FaultPlan),
      (∀ u : Unit, ending ≠ .done u) ∧
        commit d = (ending, ⟨d.session, { d.host with faults := plan }⟩) := by
  have hiff : commit.StruckBy .commit d ↔ (d.host.faults.next .commit).1 ≠ none := by
    have hstrike : (Host.strike .commit).StruckBy .commit d.host ↔ _ := Host.struckBy_strike_iff
    rw [commit_eq, struckBy_bind_iff fun _ => evades_close, onHost,
      struckBy_onPart_iff holdsPlan_host, hstrike, Option.ne_none_iff_exists']
    simp [FaultSort.ofPoint]
  rw [hiff, commit_eq, bind_apply, onHost, onPart_apply]
  cases hnext : (d.host.faults.next .commit).1 with
  | none =>
    rw [Host.strike_of_none hnext]
    let reached : Dialog :=
      ⟨d.session, { d.host with faults := (d.host.faults.next .commit).2 }⟩
    exact .inl ⟨fun h => h rfl, _, close_of_open (d := reached) hopen hdb⟩
  | some fault =>
    rw [Host.strike_of_some hnext]
    refine .inr ⟨Option.some_ne_none fault, ?_⟩
    cases fault with
    | error message => exact ⟨_, _, by rintro _ ⟨⟩, rfl⟩
    | panic message => exact ⟨_, _, by rintro _ ⟨⟩, rfl⟩

end Dialog

/-! ## One part after the other -/

namespace PasswordCheck

variable {σ α β : Type} [Exposed σ] {catalog : σ → Catalog} {database : String} {left : Values}

/-- Something that a fault strikes fails, and changes no value, unless it was a release that
a fault struck, and no commit: then the database has the values that were left. -/
structure BacksOut (catalog : σ → Catalog) (database : String) (left : Values)
    (x : Attempt σ α) (s : σ) : Prop where
  failed : x.Struck s → ∃ e : BackendError, (x s).1 = .failed e
  committed?_eq : x.Struck s → ¬ (x.StruckBy .release s ∧ ¬ x.StruckBy .commit s) →
    (catalog (x s).2).committed? = (catalog s).committed?
  committed?_stranded : x.StruckBy .release s → ¬ x.StruckBy .commit s →
    (catalog (x s).2).committed? =
      fun other => if other = database then left else (catalog s).committed? other

/-- A first part that neither releases nor commits makes no difference. -/
theorem BacksOut.bind {x : Attempt σ α} {f : α → Attempt σ β} {s : σ} (hx : x.Orderly)
    (hrelease : x.Evades .release) (hcommit : x.Evades .commit)
    (hcatalog : x.Keeps catalog) (herrors : (faults s).ErrorsOnly)
    (hf : ∀ (a : α) (s' : σ), x s = (.done a, s') → (faults s').ErrorsOnly →
      BacksOut catalog database left (f a) s') :
    BacksOut catalog database left (x >>= f) s := by
  have hmild := hx.mild s herrors
  have hspared (a : α) (h : (x s).1 = .done a) := (hx.candid.spared_of_done h).threats_eq
  have herrors' := (hx.candid.steady.narrows s).errorsOnly herrors
  have hkept := hcatalog s
  have hreleases := hrelease s
  obtain ⟨ending, s', hrun⟩ : ∃ (ending : Ending α) (s' : σ), x s = (ending, s') := ⟨_, _, rfl⟩
  rw [hrun] at hmild hspared herrors' hkept hreleases
  cases ending with
  | unwound p => exact absurd rfl (hmild p)
  | failed e =>
    have hfailed : (x >>= f) s = (.failed e, s') := by rw [bind_apply, hrun]
    refine ⟨fun _ => ⟨e, by rw [hfailed]⟩, fun _ _ => ?_, fun hstruck _ => ?_⟩
    · rw [hfailed, hkept]
    · rw [StruckBy, hfailed, hreleases] at hstruck
      exact absurd hstruck (Nat.lt_irrefl _)
  | done a =>
    have hnext := bind_of_done (f := f) hrun
    have hrest := hf a s' hrun herrors'
    have hstruck : (x >>= f).Struck s ↔ (f a).Struck s' := by
      rw [Struck, Struck, hnext, ← hspared a rfl]
    refine ⟨?_, ?_, ?_⟩
    · rw [hstruck, hnext]
      exact hrest.failed
    · rw [hstruck, struckBy_bind_of_done hrelease hrun, struckBy_bind_of_done hcommit hrun, hnext,
        ← hkept]
      exact hrest.committed?_eq
    · rw [struckBy_bind_of_done hrelease hrun, struckBy_bind_of_done hcommit hrun, hnext, ← hkept]
      exact hrest.committed?_stranded

/-! ## The check and its commit -/

variable {s : PasscheckSettings} {r : PasswordRequest} {d d' : Dialog} {db : Database}

/-- What strikes a run and what follows it strikes the run. -/
theorem struck_of_follow {procedures : List QualifiedName}
    (hstruck : (follow s r (.run procedures)).Struck d) :
    (Dialog.runIsolated procedures (.passcheck r)).Struck d := by
  have hconclude (o : Outcome) : (conclude r o).Keeps threats := fun d =>
    congrArg FaultPlan.threats ((aloof_conclude r o).faults_eq d)
  rw [Struck, follow, Keeps.after_bind hconclude] at hstruck
  exact hstruck

/-- A check that a fault strikes is not done. -/
theorem candid_check (s : PasscheckSettings) (r : PasswordRequest) : (check s r).Candid := by
  rw [check_eq_follow]
  refine (Dialog.orderly_evaluate .passcheck s.mode).candid.bind fun asked => ?_
  cases asked with
  | accept reason => exact (orderly_pure ()).candid
  | reject failure => exact (Attempt.aloof_conclude _).candid
  | run procedures =>
    have hrun := Dialog.tame_runIsolated procedures (.passcheck r)
    refine ⟨hrun.steady.bind fun o => (aloof_conclude r o).candid.steady,
      fun d hstruck u hdone => ?_⟩
    obtain ⟨o, d', hran, htold⟩ := bind_eq_done_iff.mp (Prod.ext hdone rfl)
    -- A run that a fault strikes raised an error, if it is done, and that is told.
    obtain ⟨e, rfl⟩ := Dialog.raised_of_struck procedures (.passcheck r)
      (struck_of_follow hstruck) (congrArg Prod.fst hran)
    cases htold

/-- A check that a fault strikes is not heard. -/
theorem not_heard_of_struck (hstruck : (check s r).Struck d) : ¬ Heard s r d := by
  intro hheard
  rcases hheard with hdone | ⟨reason, hrejected⟩
  · exact (candid_check s r).not_done d hstruck () hdone
  · unfold outcome? at hrejected
    split at hrejected
    · rename_i procedures d' hasked
      have hspared := ((Dialog.orderly_evaluate .passcheck s.mode).candid.spared_of_done
        (congrArg Prod.fst hasked)).threats_eq
      rw [hasked] at hspared
      rw [Struck, check_eq_follow, bind_of_done hasked, ← hspared] at hstruck
      have hdone := Ending.value?_eq_some_iff.mp hrejected
      obtain ⟨e, he⟩ := Dialog.raised_of_struck procedures (.passcheck r)
        (struck_of_follow hstruck) hdone
      cases he
    · cases hrejected

/-- What the caller is told after the commit. -/
def passOn : Except BackendError Unit → Attempt Dialog Unit
  | .ok () => pure ()
  | .error e => .fail e

/-- Do something and commit, even if it failed. -/
def committing (body : Attempt Dialog Unit) : Attempt Dialog Unit :=
  body.settle >>= fun result => Dialog.commit >>= fun _ => passOn result

/-- Beyond its session, a transaction that is committed even if something failed in it does
what its parts do one after the other. -/
theorem settled_bind_eq (body : Attempt Dialog Unit) (session : Session) (h : Host) :
    (settled body session >>= deliver) h =
      (((Dialog.begin >>= fun _ => committing body) ⟨session, h⟩).1,
        ((Dialog.begin >>= fun _ => committing body) ⟨session, h⟩).2.host) := by
  rw [settled_bind, bind_apply]
  generalize Dialog.begin ⟨session, h⟩ = begun
  obtain ⟨ending, d⟩ := begun
  cases ending with
  | failed e => rfl
  | unwound p => rfl
  | done u =>
    dsimp only
    rw [committing, bind_apply]
    generalize body.settle d = result
    obtain ⟨ending, d'⟩ := result
    cases ending with
    | failed e => rfl
    | unwound p => rfl
    | done told =>
      dsimp only
      rw [afterwards, wrapUp, bind_apply, bind_apply]
      generalize Dialog.commit d' = committed
      obtain ⟨ending, d''⟩ := committed
      cases ending with
      | failed e => rfl
      | unwound p => rfl
      | done u => cases told <;> rfl

/-- Where a fault strikes the release of a check, the session sees what the procedures
left. -/
theorem values_of_stranded_check (hopen : d.session.layers ≠ [])
    (hdb : d.host.catalog.databases.get? d.session.database = some db) (ht : db.Transactional)
    (hstruck : (check s r).StruckBy .release d) :
    (check s r d).2.values = (db.hear (.passcheck r) (db.entriesFor .passcheck) d.values).2 := by
  obtain ⟨hsession, plan, hhost⟩ := Dialog.looks_evaluate .passcheck s.mode d
  rw [check_eq_follow] at hstruck ⊢
  obtain ⟨asked, d', hasked, hstruck⟩ := exists_of_struckBy_bind
    (Dialog.evades_evaluate (fun _ => rfl) (fun _ => rfl) .passcheck s.mode) hstruck
  rw [hasked] at hsession hhost
  dsimp only at hsession hhost
  have hcatalog : d'.host.catalog = d.host.catalog := by rw [hhost]
  rw [bind_of_done hasked]
  cases asked with
  | accept reason => exact absurd hstruck (Nat.lt_irrefl _)
  | reject failure => exact absurd hstruck (Nat.lt_irrefl _)
  | run procedures =>
    have hconclude (o : Outcome) : (conclude r o).Keeps Dialog.values := by
      refine Keeps.bind (fun _ => rfl) fun _ => ?_
      split <;> exact fun _ => rfl
    have hvalues : d'.values = d.values := Dialog.values_eq_of
      (congrArg Session.database hsession) (congrArg Session.pending hsession) hcatalog
    rw [follow, struckBy_bind_iff fun o => (aloof_conclude r o).evades _] at hstruck
    rw [follow, Keeps.after_bind hconclude,
      Dialog.values_of_stranded (by rw [hsession]; exact hopen)
        (by rw [hsession, hcatalog]; exact hdb) ht hstruck, hvalues,
      Dialog.entries_of_run hasked hdb]

theorem evades_check_commit (s : PasscheckSettings) (r : PasswordRequest) :
    (check s r).Evades .commit := by
  rw [check_eq_follow]
  refine (Dialog.evades_evaluate (fun _ => rfl) (fun _ => rfl) _ _).bind fun asked => ?_
  cases asked with
  | accept reason => exact keeps_pure _
  | reject failure => exact keeps_conclude _
  | run procedures =>
    refine Keeps.bind ?_ fun o => (aloof_conclude r o).evades _
    refine Dialog.evades_runIsolated ?_ (fun _ => rfl) (fun _ => rfl) _ _
    intro point fault h
    obtain rfl := of_decide_eq_true h
    rfl

theorem evades_passOn {sort : FaultSort} (result : Except BackendError Unit) :
    (passOn result).Evades sort := by
  cases result <;> exact fun _ => rfl

/-- Where only errors are planned, a check settles, and well only if it is done. -/
theorem settle_check (s : PasscheckSettings) (r : PasswordRequest)
    (herrors : d.host.faults.ErrorsOnly) :
    ∃ result : Except BackendError Unit,
      (check s r).settle d = (.done result, (check s r d).2) ∧
        ((check s r d).1 = .done () ∨ ∃ e : BackendError, result = .error e) := by
  have hmild := (tame_check s r).mild d herrors
  unfold settle
  generalize check s r d = checked at hmild
  obtain ⟨ending, d'⟩ := checked
  cases ending with
  | done u => exact ⟨.ok u, rfl, .inl rfl⟩
  | failed e => exact ⟨.error e, rfl, .inr ⟨e, rfl⟩⟩
  | unwound p => exact absurd rfl (hmild p)

/-- What a check leaves of an open transaction: it is still open, on the same database. -/
theorem check_leaves (s : PasscheckSettings) (r : PasswordRequest) (ht : d.Transactional)
    (hopen : d.session.layers ≠ []) :
    (check s r d).2.session.layers ≠ [] ∧
      (check s r d).2.session.database = d.session.database ∧
      (check s r d).2.host.catalog = d.host.catalog := by
  have hlocal := local_unlogged (s := s) (r := r) ht
  refine ⟨?_, ?_, ?_⟩
  · obtain ⟨-, hatomic⟩ | ⟨-, hstranded⟩ := atomic_or_stranded_check s r hopen
    · intro hclosed
      have hdepth := hatomic.depth_eq
      rw [Session.depth, hclosed] at hdepth
      exact hopen (List.length_eq_zero_iff.mp hdepth.symm)
    · obtain ⟨top, hsession⟩ := hstranded
      rw [hsession]
      exact List.cons_ne_nil _ _
  · rw [check_eq]
    exact hlocal.database_eq
  · rw [check_eq]
    exact hlocal.catalog_eq

/-- The release of what is committed is that of its check. -/
theorem committing_struckBy_release_iff (s : PasscheckSettings) (r : PasswordRequest)
    (d : Dialog) :
    (committing (check s r)).StruckBy .release d ↔ (check s r).StruckBy .release d := by
  have hcommit (result : Except BackendError Unit) :
      (Dialog.commit >>= fun _ => passOn result).Evades .release := by
    refine Keeps.bind ?_ fun _ => evades_passOn result
    exact (Dialog.evades_strike fun _ => rfl).bind fun _ => Dialog.evades_close
  rw [committing, struckBy_bind_iff hcommit, StruckBy, StruckBy, settle_snd]

/-- The commit comes after a check that no fault of a commit can strike. -/
theorem committing_struckBy_commit_iff (herrors : d.host.faults.ErrorsOnly) :
    (committing (check s r)).StruckBy .commit d ↔
      Dialog.commit.StruckBy .commit (check s r d).2 := by
  obtain ⟨result, hsettle, -⟩ := settle_check s r herrors
  rw [committing, struckBy_bind_of_done (evades_check_commit s r).settle hsettle,
    struckBy_bind_iff fun _ => evades_passOn result]

theorem committing_snd (herrors : d.host.faults.ErrorsOnly) :
    (committing (check s r) d).2 = (Dialog.commit (check s r d).2).2 := by
  obtain ⟨result, hsettle, -⟩ := settle_check s r herrors
  have hpassOn (u : Unit) : (passOn result).Keeps id := fun d => by cases result <;> rfl
  rw [committing, bind_of_done hsettle]
  exact Keeps.after_bind hpassOn _ _

/-- A check that a fault strikes, but not at its release, changes nothing that its session
sees. -/
theorem values_of_struck_check (ht : d.Transactional) (hopen : d.session.layers ≠ [])
    (hstruck : (check s r).Struck d) (hspared : ¬ (check s r).StruckBy .release d) :
    (check s r d).2.values = d.values := by
  obtain ⟨-, hatomic⟩ | ⟨hreleased, -⟩ := atomic_or_stranded_check s r hopen
  · have hsame := hatomic.eq_of_not_kept (not_heard_of_struck hstruck)
    exact Dialog.values_eq_of (congrArg Session.database hsame) (congrArg Session.pending hsame)
      (check_leaves s r ht hopen).2.2
  · exact absurd hreleased hspared

section Committing

variable (hdatabase : d.session.database = s.database) (hopen : d.session.layers ≠ [])
  (hdb : d.host.catalog.databases.get? s.database = some db) (ht : db.Transactional)
  (herrors : d.host.faults.ErrorsOnly)

include hdatabase hdb ht in
theorem transactional_of_open : d.Transactional := by
  intro found hfound
  rw [hdatabase, hdb] at hfound
  exact Option.some.inj hfound ▸ ht

include hdatabase hopen hdb ht herrors

/-- A commit that no fault strikes takes what the session sees, and the check decides how
it ends. -/
theorem committing_of_spared (r : PasswordRequest)
    (hspared : ¬ (committing (check s r)).StruckBy .commit d) :
    ((committing (check s r) d).2.host.catalog.committed? = fun other =>
        if other = s.database then (check s r d).2.values else d.host.catalog.committed? other) ∧
      ((committing (check s r)).Struck d → (check s r).Struck d) ∧
      ((check s r d).1 = .done () ∨
        ∃ e : BackendError, (committing (check s r) d).1 = .failed e) := by
  obtain ⟨hopen', hdatabase', hcatalog'⟩ :=
    check_leaves s r (transactional_of_open hdatabase hdb ht) hopen
  have hdb' : (check s r d).2.host.catalog.databases.get? (check s r d).2.session.database =
      some db := by rw [hcatalog', hdatabase', hdatabase, hdb]
  have hleft := committing_snd (s := s) (r := r) herrors
  rw [committing_struckBy_commit_iff herrors] at hspared
  obtain ⟨-, plan, hrun⟩ | ⟨hstruck, -⟩ := Dialog.commit_cases_of_open hopen' hdb'
  · refine ⟨?_, ?_, ?_⟩
    · rw [hleft, hrun]
      funext other
      dsimp only
      rw [Session.committed?_committed hdb', hdatabase', hdatabase, hcatalog', ← hcatalog']
      rfl
    · rw [Struck, Struck, hleft,
        (Dialog.orderly_commit.candid.spared_of_done (congrArg Prod.fst hrun)).threats_eq]
      exact id
    · obtain ⟨result, hsettle, hdone | ⟨e, rfl⟩⟩ := settle_check s r herrors
      · exact .inl hdone
      · refine .inr ⟨e, ?_⟩
        rw [committing, bind_of_done hsettle, bind_of_done hrun]
        rfl
  · exact absurd hstruck hspared

/-- A commit that a fault strikes fails, and takes nothing. -/
theorem committing_of_struck (r : PasswordRequest)
    (hstruck : (committing (check s r)).StruckBy .commit d) :
    (∃ e : BackendError, (committing (check s r) d).1 = .failed e) ∧
      (committing (check s r) d).2.host.catalog = d.host.catalog := by
  obtain ⟨hopen', hdatabase', hcatalog'⟩ :=
    check_leaves s r (transactional_of_open hdatabase hdb ht) hopen
  have hdb' : (check s r d).2.host.catalog.databases.get? (check s r d).2.session.database =
      some db := by rw [hcatalog', hdatabase', hdatabase, hdb]
  have hleft := committing_snd (s := s) (r := r) herrors
  rw [committing_struckBy_commit_iff herrors] at hstruck
  obtain ⟨hspared, -⟩ | ⟨-, ending, plan, hending, hrun⟩ :=
    Dialog.commit_cases_of_open hopen' hdb'
  · exact absurd hstruck hspared
  have hmild := Dialog.orderly_commit.mild (check s r d).2
    (((tame_check s r).steady.narrows d).errorsOnly herrors)
  rw [hrun] at hmild
  cases ending with
  | done u => exact absurd rfl (hending u)
  | unwound p => exact absurd rfl (hmild p)
  | failed e =>
    obtain ⟨result, hsettle, -⟩ := settle_check s r herrors
    refine ⟨⟨e, ?_⟩, ?_⟩
    · rw [committing, bind_of_done hsettle, bind_apply, hrun]
    · rw [hleft, hrun]
      exact hcatalog'

end Committing

/-- A check that is committed, in a transaction that has written nothing before. -/
theorem backsOut_committing (hsession : d.session = ⟨s.database, [[]]⟩)
    (hdb : d.host.catalog.databases.get? s.database = some db) (ht : db.Transactional)
    (herrors : d.host.faults.ErrorsOnly) :
    BacksOut (fun d : Dialog => d.host.catalog) s.database
      (db.hear (.passcheck r) (db.entriesFor .passcheck) db.store.get?).2
      (committing (check s r)) d := by
  have hopen : d.session.layers ≠ [] := by rw [hsession]; exact List.cons_ne_nil _ _
  have hdatabase : d.session.database = s.database := by rw [hsession]
  have hrelease := committing_struckBy_release_iff s r d
  have hbare : d.values = d.host.catalog.committed? s.database := by
    rw [Dialog.values, Session.get?_eq, hsession]
    rfl
  by_cases hcommit : (committing (check s r)).StruckBy .commit d
  · obtain ⟨hfailed, hkept⟩ := committing_of_struck hdatabase hopen hdb ht herrors r hcommit
    exact ⟨fun _ => hfailed, fun _ _ => congrArg Catalog.committed? hkept,
      fun _ hspared => absurd hcommit hspared⟩
  · obtain ⟨hcommitted, hcheck, hended⟩ :=
      committing_of_spared hdatabase hopen hdb ht herrors r hcommit
    refine ⟨fun hstruck => ?_, fun hstruck hnot => ?_, fun hstruck _ => ?_⟩
    · obtain hdone | hfailed := hended
      · exact absurd hdone ((candid_check s r).not_done d (hcheck hstruck) ())
      · exact hfailed
    · rw [hcommitted, values_of_struck_check (transactional_of_open hdatabase hdb ht) hopen
        (hcheck hstruck) fun hreleased => hnot ⟨hrelease.mpr hreleased, hcommit⟩, hbare]
      funext other
      split
      · rename_i hother
        rw [hother]
      · rfl
    · rw [hcommitted, values_of_stranded_check hopen (by rw [hdatabase]; exact hdb) ht
        (hrelease.mp hstruck), hbare, Catalog.committed?_of_get? hdb]

/-! ## In a session of its own -/

variable {h : Host}

/-- What leaves everything as it is was struck by nothing. -/
theorem backsOut_of_still {x : Attempt σ α} {s : σ} (hstill : (x s).2 = s) :
    BacksOut catalog database left x s := by
  refine ⟨fun hstruck => ?_, fun _ _ => by rw [hstill], fun hstruck _ => ?_⟩
  · rw [Struck, hstill] at hstruck
    exact absurd hstruck (Nat.lt_irrefl _)
  · rw [StruckBy, hstill] at hstruck
    exact absurd hstruck (Nat.lt_irrefl _)

theorem begin_session {h h' : Host} {name : String} {session : Session} {u : Unit}
    (hrun : Dialog.begin ⟨⟨name, []⟩, h⟩ = (.done u, ⟨session, h'⟩)) :
    session = ⟨name, [[]]⟩ := by
  obtain ⟨s, h, ⟨⟩, -, hbegin⟩ | ⟨ending, h, hending, -, hbegin⟩ :=
    Dialog.step_cases .begin Session.begin? ⟨⟨name, []⟩, h⟩
  all_goals replace hbegin : Dialog.begin ⟨⟨name, []⟩, _⟩ = _ := hbegin
  · exact congrArg (Dialog.session ∘ Prod.snd) (hrun.symm.trans hbegin)
  · exact absurd (congrArg Prod.fst (hbegin.symm.trans hrun)) hending

/-- A check in a fresh session on a database that is there. -/
theorem backsOut_settled (hdb : h.catalog.databases.get? s.database = some db)
    (ht : db.Transactional) (herrors : h.faults.ErrorsOnly) :
    BacksOut Host.catalog s.database
      (db.hear (.passcheck r) (db.entriesFor .passcheck) db.store.get?).2
      (settled (check s r) ⟨s.database, []⟩ >>= deliver) h := by
  have hdialog : BacksOut (fun d : Dialog => d.host.catalog) s.database
      (db.hear (.passcheck r) (db.entriesFor .passcheck) db.store.get?).2
      (Dialog.begin >>= fun _ => committing (check s r)) ⟨⟨s.database, []⟩, h⟩ := by
    refine .bind Dialog.orderly_begin ?_ ?_ (fun d => (Dialog.local_begin d).catalog_eq) herrors
      fun u d hbegin herrors => ?_
    · exact Keeps.bind (Dialog.evades_strike fun _ => rfl) fun _ => Dialog.evades_step _
    · exact Keeps.bind (Dialog.evades_strike fun _ => rfl) fun _ => Dialog.evades_step _
    · have hcatalog := (Dialog.local_begin ⟨⟨s.database, []⟩, h⟩).catalog_eq
      rw [hbegin] at hcatalog
      exact backsOut_committing (begin_session hbegin) (hcatalog ▸ hdb) ht herrors
  have heq := settled_bind_eq (check s r) ⟨s.database, []⟩ h
  generalize (Dialog.begin >>= fun _ => committing (check s r)) = x at hdialog heq
  obtain ⟨hfailed, hkept, hstranded⟩ := hdialog
  refine ⟨?_, ?_, ?_⟩
  · rw [Struck, heq]
    exact hfailed
  · rw [Struck, StruckBy, StruckBy, heq]
    exact hkept
  · rw [StruckBy, StruckBy, heq]
    exact hstranded

/-- The values that the procedures leave in the configured database. -/
def leavings (s : PasscheckSettings) (r : PasswordRequest) (c : Catalog) : Values :=
  match c.databases.get? s.database with
  | some db => (db.hear (.passcheck r) (db.entriesFor .passcheck) db.store.get?).2
  | none => fun _ => none

/-- Only a database that is there can be connected to. -/
theorem exists_of_connect {name : String} {session : Session}
    (hdone : (Host.connect name h).1 = .done session) :
    ∃ db : Database, h.catalog.databases.get? name = some db := by
  cases hdb : h.catalog.databases.get? name with
  | some db => exact ⟨db, rfl⟩
  | none =>
    have hcatalog : (Host.strike .connect h).2.catalog = h.catalog := rfl
    rw [Host.connect, bind_apply] at hdone
    generalize Host.strike .connect h = struck at hcatalog hdone
    obtain ⟨ending, h'⟩ := struck
    dsimp only at hcatalog
    cases ending with
    | failed e => cases hdone
    | unwound p => cases hdone
    | done u =>
      rw [← hcatalog] at hdb
      dsimp only at hdone
      rw [Attempt.ofExcept, Catalog.database?_of_missing hdb] at hdone
      cases hdone

theorem backsOut_checkVia (s : PasscheckSettings) (r : PasswordRequest)
    (ht : h.catalog.TransactionalIn s.database) (herrors : h.faults.ErrorsOnly) :
    BacksOut Host.catalog s.database (leavings s r h.catalog) (checkVia s r) h := by
  have hconnects {sort : FaultSort} (hsort : ∀ fault : Fault, sort .connect fault = false) :
      ((Host.connect s.database).mapError (unreachable s.database)).Evades sort := by
    intro h
    rw [mapError_snd]
    exact Host.evades_connect hsort s.database h
  unfold checkVia
  split
  · exact backsOut_of_still rfl
  split
  · exact backsOut_of_still rfl
  refine .bind (Host.orderly_databaseExists _) (Host.evades_databaseExists (fun _ => rfl) _)
    (Host.evades_databaseExists (fun _ => rfl) _) (fun h => ?_) herrors
    fun found h₁ hasked herrors => ?_
  · obtain ⟨plan, hhost⟩ := Host.databaseExists_host s.database h
    rw [hhost]
  obtain ⟨plan, hhost⟩ := Host.databaseExists_host s.database h
  rw [hasked] at hhost
  dsimp only at hhost
  subst hhost
  split
  · exact backsOut_of_still rfl
  refine .bind ((Host.orderly_connect _).mapError _) (hconnects fun _ => rfl)
    (hconnects fun _ => rfl) (fun h => ?_) herrors fun session h₂ hconnected herrors => ?_
  · obtain ⟨plan, hhost⟩ := Host.connect_host s.database h
    rw [mapError_snd, hhost]
  replace hconnected := mapError_eq_done_iff.mp hconnected
  obtain ⟨plan', hhost⟩ := Host.connect_host s.database { h with faults := plan }
  obtain rfl := Host.connect_session s.database _ session (congrArg Prod.fst hconnected)
  rw [hconnected] at hhost
  dsimp only at hhost
  subst hhost
  obtain ⟨db, hdb⟩ := exists_of_connect (congrArg Prod.fst hconnected)
  have hleft : leavings s r h.catalog =
      (db.hear (.passcheck r) (db.entriesFor .passcheck) db.store.get?).2 := by
    rw [leavings, hdb]
  rw [hleft]
  exact backsOut_settled hdb (ht db hdb) herrors

/-- Where a fault strikes a check in a session of its own, the check fails.  The database has
its values still, unless a fault struck the release, and none the commit: then it has those
that the procedures left.  All other databases have theirs. -/
theorem checkVia_of_struck (ht : h.catalog.TransactionalIn s.database)
    (herrors : h.faults.ErrorsOnly) (hstruck : (checkVia s r).Struck h) :
    (∃ e : BackendError, (checkVia s r h).1 = .failed e) ∧
      ((checkVia s r h).2.catalog.committed? = h.catalog.committed? ↔
        ((checkVia s r).StruckBy .release h → ¬ (checkVia s r).StruckBy .commit h →
          leavings s r h.catalog = h.catalog.committed? s.database)) ∧
      ((checkVia s r).StruckBy .release h → ¬ (checkVia s r).StruckBy .commit h →
        ∀ name : String, (checkVia s r h).2.catalog.committed? name =
          if name = s.database then leavings s r h.catalog else h.catalog.committed? name) := by
  obtain ⟨hfailed, hkept, hstranded⟩ := backsOut_checkVia s r ht herrors
  refine ⟨hfailed hstruck, ⟨fun hsame hrelease hcommit => ?_, fun hnone => ?_⟩,
    fun hrelease hcommit => congrFun (hstranded hrelease hcommit)⟩
  · have hleft := congrFun (hstranded hrelease hcommit) s.database
    rw [hsame, if_pos rfl] at hleft
    exact hleft.symm
  · by_cases hleaves : (checkVia s r).StruckBy .release h ∧ ¬ (checkVia s r).StruckBy .commit h
    · rw [hstranded hleaves.1 hleaves.2, hnone hleaves.1 hleaves.2]
      funext name
      split
      · rename_i hname
        rw [hname]
      · rfl
    · exact hkept hstruck hleaves

/-! ## A procedure that writes -/

/-- Where passwords are checked by noting that they are. -/
def notingSettings : PasscheckSettings :=
  { mode := .on, database := "postgres" }

/-- Bob sets a password. -/
def bobSets : PasswordRequest :=
  { user := "bob", password := "pw" }

theorem transactional_notingCatalog : notingCatalog.TransactionalIn "postgres" := by
  rintro db ⟨⟩ name body hbody args
  by_cases hname : name = ("public", "note")
  · subst hname
    cases hbody
    exact .put (.finish _)
  · rw [Dict.get?, Dict.lookup_cons_ne hname] at hbody
    cases hbody

/-- What strikes the check where the call of a point fails, and what is noted then. -/
theorem bobSets_run :
    (checkVia notingSettings bobSets).Struck (noting .commit).host ∧
      ¬ (checkVia notingSettings bobSets).StruckBy .release (noting .commit).host ∧
      (checkVia notingSettings bobSets).Struck (noting .releaseSub).host ∧
      (checkVia notingSettings bobSets (noting .releaseSub).host).2.catalog.committed? "postgres"
        "seen" = some "yes" := by
  decide +kernel

/-- Where the commit fails, so does bob's check, and nothing is noted. -/
theorem checkVia_of_struck_noting :
    (∃ e : BackendError,
        (checkVia notingSettings bobSets (noting .commit).host).1 = .failed e) ∧
      (checkVia notingSettings bobSets (noting .commit).host).2.catalog.committed? =
        notingCatalog.committed? := by
  obtain ⟨hstruck, hreleased, -⟩ := bobSets_run
  obtain ⟨hfailed, hiff, -⟩ := checkVia_of_struck (s := notingSettings) (r := bobSets)
    (h := (noting .commit).host) transactional_notingCatalog
    (FaultPlan.errorsOnly_failing _ _ _) hstruck
  exact ⟨hfailed, hiff.mpr fun hrelease => absurd hrelease hreleased⟩

/-- A check that failed may have committed what its procedures wrote. -/
theorem checkVia_commits_on_failure :
    ¬ ∀ (s : PasscheckSettings) (r : PasswordRequest) (h : Host),
      h.catalog.TransactionalIn s.database → h.faults.ErrorsOnly → (checkVia s r).Struck h →
        (∃ e : BackendError, (checkVia s r h).1 = .failed e) ∧
          (checkVia s r h).2.catalog.committed? s.database =
            h.catalog.committed? s.database := by
  intro hbacksOut
  obtain ⟨-, -, hstruck, hnoted⟩ := bobSets_run
  obtain ⟨-, hsame⟩ := hbacksOut notingSettings bobSets (noting .releaseSub).host
    transactional_notingCatalog (FaultPlan.errorsOnly_failing _ _ _) hstruck
  have hnotNoted := (congrFun hsame "seen").symm.trans hnoted
  exact absurd hnotNoted (by decide +kernel)

end PasswordCheck

end Admission
