import Admission.Proofs.Procedure.Candid
import Admission.Proofs.Procedure.Play

set_option autoImplicit false

/-!
# Procedures at work in a session

Procedures that write only through their transaction, called one after another in a
session, do what they come to in its database.  Run in isolation, they leave the session
as it was if one of them raised an error, and keep their writes otherwise; whatever
faults are planned, nothing else is touched.
-/

namespace Admission

open Attempt

/-- The procedure a name stands for in its database. -/
def QualifiedName.key (n : QualifiedName) : String × String :=
  (n.schema, n.name)

/-- What came of calls made in order, by how they ended. -/
def Ending.outcome : Ending (Option String) → Outcome
  | .done none => .accepted
  | .done (some reason) => .rejected reason
  | .failed e => .raised e
  | .unwound p => .raised (.ofPanic p)

namespace Dialog

variable {d : Dialog} {db : Database} {procedure : QualifiedName} {procedures : List QualifiedName}
  {args : Args}

/-! ## One call -/

/-- A call behind its fault point. -/
def reach (procedure : QualifiedName) (args : Args) : Attempt Dialog Output := do
  if (← Attempt.gets (·.session.depth)) = 0 then
    .fail ⟨"procedure call outside a transaction", none⟩
  else
    match (← database).procedures.get? (procedure.schema, procedure.name) with
    | none => .fail ⟨s!"function {procedure.quoted} does not exist", none⟩
    | some body => perform (body args)

theorem call_eq (procedure : QualifiedName) (args : Args) :
    call procedure args = onHost (Host.strike .call) >>= fun _ => reach procedure args := rfl

theorem depth_ne_zero (hopen : d.session.layers ≠ []) : d.session.depth ≠ 0 :=
  fun h => hopen (List.length_eq_zero_iff.mp h)

theorem database_of_get? (hdb : d.host.catalog.databases.get? d.session.database = some db) :
    database d = (.done db, d) := by
  rw [database, Attempt.ofExcept, Catalog.database?_of_get? hdb]
  rfl

theorem database_of_missing (hdb : d.host.catalog.databases.get? d.session.database = none) :
    database d = (.failed (noDatabase d.session.database), d) := by
  rw [database, Attempt.ofExcept, Catalog.database?_of_missing hdb]
  rfl

theorem reach_of_missing (hopen : d.session.layers ≠ [])
    (hdb : d.host.catalog.databases.get? d.session.database = none) :
    reach procedure args d = (.failed (noDatabase d.session.database), d) := by
  rw [reach, gets_bind_apply, if_neg (depth_ne_zero hopen), bind_apply, database_of_missing hdb]

theorem reach_of_undefined (hopen : d.session.layers ≠ [])
    (hdb : d.host.catalog.databases.get? d.session.database = some db)
    (hbody : db.procedures.get? procedure.key = none) :
    reach procedure args d = (.failed (Database.undefined procedure.key), d) := by
  rw [reach, gets_bind_apply, if_neg (depth_ne_zero hopen), bind_of_done (database_of_get? hdb)]
  rw [QualifiedName.key] at hbody
  rw [hbody]
  rfl

theorem reach_of_defined (hopen : d.session.layers ≠ [])
    (hdb : d.host.catalog.databases.get? d.session.database = some db) {body : Procedure}
    (hbody : db.procedures.get? procedure.key = some body) :
    reach procedure args d = perform (body args) d := by
  rw [reach, gets_bind_apply, if_neg (depth_ne_zero hopen), bind_of_done (database_of_get? hdb)]
  rw [QualifiedName.key] at hbody
  rw [hbody]

/-! ## Whatever is planned -/

theorem contained_strike (point : FaultPoint) (d : Dialog) :
    Contained d (onHost (Host.strike point) d).2 :=
  ⟨.refl _, _, d.host.trace, rfl⟩

theorem contained_reach (procedure : QualifiedName) (args : Args) (ht : d.Transactional)
    (hopen : d.session.layers ≠ []) :
    Contained d (reach procedure args d).2 := by
  cases hdb : d.host.catalog.databases.get? d.session.database with
  | none =>
    rw [reach_of_missing hopen hdb]
    exact .refl d
  | some db =>
    cases hbody : db.procedures.get? procedure.key with
    | none =>
      rw [reach_of_undefined hopen hdb hbody]
      exact .refl d
    | some body =>
      rw [reach_of_defined hopen hdb hbody]
      exact contained_perform (ht db hdb procedure.key body hbody args) d hopen

/-- In an open transaction, two contained parts are contained one after the other: the
first leaves the transaction open, and the procedures as they were. -/
theorem contained_bind {α β : Type} {x : Attempt Dialog α} {f : α → Attempt Dialog β}
    (hx : ∀ d : Dialog, d.Transactional → d.session.layers ≠ [] → Contained d (x d).2)
    (hf : ∀ (a : α) (d : Dialog), d.Transactional → d.session.layers ≠ [] →
      Contained d (f a d).2) (ht : d.Transactional) (hopen : d.session.layers ≠ []) :
    Contained d ((x >>= f) d).2 := by
  refine rel_bind (R := fun d d' : Dialog => d.Transactional → d.session.layers ≠ [] →
    Contained d d') (fun h h' ht hopen => ?_) hx hf d ht hopen
  have hfirst := h ht hopen
  exact hfirst.trans (h' (hfirst.transactional ht) (hfirst.session.open_of_open hopen))

theorem contained_call (procedure : QualifiedName) (args : Args) (ht : d.Transactional)
    (hopen : d.session.layers ≠ []) :
    Contained d (call procedure args d).2 := by
  rw [call_eq]
  exact contained_bind (fun d _ _ => contained_strike .call d)
    (fun _ _ ht hopen => contained_reach procedure args ht hopen) ht hopen

theorem contained_callInOrder (args : Args) (procedures : List QualifiedName)
    (ht : d.Transactional) (hopen : d.session.layers ≠ []) :
    Contained d (callInOrder args procedures d).2 := by
  induction procedures generalizing d with
  | nil => exact .refl d
  | cons p rest ih =>
    refine contained_bind (fun d ht hopen => contained_call p args ht hopen)
      (fun o d ht hopen => ?_) ht hopen
    cases o.rejection? with
    | some reason => exact .refl d
    | none => exact ih ht hopen

/-! ## Where no fault is planned -/

theorem call_of_unplanned (procedure : QualifiedName) (args : Args)
    (hf : d.host.faults = .none) (hopen : d.session.layers ≠ [])
    (hdb : d.host.catalog.databases.get? d.session.database = some db) (ht : db.Transactional) :
    (call procedure args d).1 = (db.answer args procedure.key d.values).1 ∧
      (call procedure args d).2.values = (db.answer args procedure.key d.values).2 ∧
      ∃ trace : List String, (call procedure args d).2.host = { d.host with trace } := by
  rw [call_eq, strike_bind hf]
  cases hbody : db.procedures.get? procedure.key with
  | none =>
    rw [reach_of_undefined hopen hdb hbody, Database.answer, hbody]
    exact ⟨rfl, rfl, d.host.trace, rfl⟩
  | some body =>
    rw [reach_of_defined hopen hdb hbody, Database.answer, hbody]
    exact perform_of_transactional (ht procedure.key body hbody args) hopen

/-- Procedures called in order come to what they come to in the database. -/
theorem callInOrder_of_unplanned (args : Args) (procedures : List QualifiedName)
    (hf : d.host.faults = .none) (hopen : d.session.layers ≠ [])
    (hdb : d.host.catalog.databases.get? d.session.database = some db) (ht : db.Transactional) :
    (callInOrder args procedures d).1.outcome =
        (db.hear args (procedures.map (·.key)) d.values).1 ∧
      (callInOrder args procedures d).2.values =
        (db.hear args (procedures.map (·.key)) d.values).2 ∧
      ∃ trace : List String, (callInOrder args procedures d).2.host = { d.host with trace } := by
  -- A call leaves the catalog and the level as they were, so the rest of the procedures is
  -- heard in the same database, with the values the call left.
  induction procedures generalizing d with
  | nil => exact ⟨rfl, rfl, d.host.trace, rfl⟩
  | cons p rest ih =>
    have hopen' := (confined_call p args d).session.open_of_open hopen
    have hdatabase := (confined_call p args d).session.database_eq
    obtain ⟨hending, hvalues, trace, hhost⟩ :=
      call_of_unplanned p args hf hopen hdb ht
    rw [callInOrder, bind_apply, List.map_cons, Database.hear]
    generalize call p args d = called at *
    generalize db.answer args p.key d.values = answer at *
    obtain ⟨ending, d'⟩ := called
    obtain ⟨_, v⟩ := answer
    subst hending hvalues
    dsimp only at hhost ⊢
    cases ending with
    | done o =>
      dsimp only
      rw [Output.rejection?_eq]
      cases o.objection? with
      | some reason => exact ⟨rfl, rfl, trace, hhost⟩
      | none =>
        have hrest := ih (d := d') (by rw [hhost]; exact hf) hopen'
          (by rw [hhost, hdatabase]; exact hdb)
        rw [hhost] at hrest
        exact hrest
    | failed e => exact ⟨rfl, rfl, trace, hhost⟩
    | unwound p => exact ⟨rfl, rfl, trace, hhost⟩

/-! ## In isolation -/

/-- How a run in isolation goes on when the calls are over. -/
def leave : Ending (Option String) → Attempt Dialog Outcome
  | .done rejection => do
    releaseSub
    pure (rejection.elim .accepted .rejected)
  | .failed e => do
    rollbackSub
    pure (.raised e)
  | .unwound p => do
    rollbackSub
    pure (.raised (.ofPanic p))

theorem runIsolated_eq (procedures : List QualifiedName) (args : Args) :
    runIsolated procedures args =
      beginSub >>= fun _ => (callInOrder args procedures).observe >>= leave := rfl

theorem orderly_leave (ending : Ending (Option String)) : (leave ending).Orderly := by
  cases ending with
  | done rejection => exact orderly_releaseSub.bind fun _ => orderly_pure _
  | failed e => exact orderly_rollbackSub.bind fun _ => orderly_pure _
  | unwound p => exact orderly_rollbackSub.bind fun _ => orderly_pure _

/-- A panic of a procedure does not get out of a run in isolation. -/
theorem tame_runIsolated (procedures : List QualifiedName) (args : Args) :
    (runIsolated procedures args).Tame := by
  rw [runIsolated_eq]
  exact orderly_beginSub.tame.bind fun _ =>
    (candid_callInOrder args procedures).steady.observe.bind fun ending =>
      (orderly_leave ending).tame

/-- `after` comes from `before` by changes to the levels of the session, to the trace and
to what is planned for calls. -/
structure Local (before after : Dialog) : Prop where
  database_eq : after.session.database = before.session.database
  host_eq : ∃ (plan : FaultPlan) (trace : List String),
    after.host = { before.host with faults := plan, trace }

namespace Local

variable {a b c : Dialog}

theorem refl (d : Dialog) : Local d d :=
  ⟨rfl, d.host.faults, d.host.trace, rfl⟩

theorem trans (h₁ : Local a b) (h₂ : Local b c) : Local a c := by
  obtain ⟨_, _, hab⟩ := h₁.host_eq
  obtain ⟨plan, trace, hbc⟩ := h₂.host_eq
  exact ⟨h₂.database_eq.trans h₁.database_eq, plan, trace, by rw [hbc, hab]⟩

theorem of_session (h : Local a b) {s : Session} (hs : s.database = b.session.database) :
    Local a { b with session := s } :=
  ⟨hs.trans h.database_eq, h.host_eq⟩

theorem transactional (h : Local a b) (ha : a.Transactional) : b.Transactional := by
  obtain ⟨_, _, hhost⟩ := h.host_eq
  intro db hdb
  rw [hhost, h.database_eq] at hdb
  exact ha db hdb

end Local

theorem Contained.local {a b : Dialog} (h : Contained a b) : Local a b :=
  ⟨h.session.database_eq, h.host_eq⟩

/-- A step behind its fault point is done as the step is, or is not done and leaves the
session alone. -/
theorem step_cases (point : FaultPoint) (f : Session → Except BackendError Session) (d : Dialog) :
    (∃ (s : Session) (h : Host), f d.session = .ok s ∧ Local d ⟨d.session, h⟩ ∧
      (onHost (Host.strike point) >>= fun _ => step f) d = (.done (), ⟨s, h⟩)) ∨
    ∃ (ending : Ending Unit) (h : Host), ending ≠ .done () ∧ Local d ⟨d.session, h⟩ ∧
      (onHost (Host.strike point) >>= fun _ => step f) d = (ending, ⟨d.session, h⟩) := by
  have hstrike : Local d ⟨d.session, (Host.strike point d.host).2⟩ :=
    (contained_strike point d).local
  rw [bind_apply, onHost, onPart_apply]
  generalize Host.strike point d.host = struck at hstrike
  obtain ⟨ending, h⟩ := struck
  cases ending with
  | done _ =>
    cases hf : f d.session with
    | ok s => exact .inl ⟨s, h, rfl, hstrike, step_of_ok hf⟩
    | error e => exact .inr ⟨.failed e, h, by rintro ⟨⟩, hstrike, step_of_error hf⟩
  | failed e => exact .inr ⟨.failed e, h, by rintro ⟨⟩, hstrike, rfl⟩
  | unwound p => exact .inr ⟨.unwound p, h, by rintro ⟨⟩, hstrike, rfl⟩

/-- A step that stays on the database where the session is. -/
theorem local_step (point : FaultPoint) {f : Session → Except BackendError Session}
    (h : ∀ s s' : Session, f s = .ok s' → s'.database = s.database) (d : Dialog) :
    Local d ((onHost (Host.strike point) >>= fun _ => step f) d).2 := by
  obtain ⟨s, host, hs, hlocal, hrun⟩ | ⟨ending, host, -, hlocal, hrun⟩ := step_cases point f d
  · rw [hrun]
    exact hlocal.of_session (h _ _ hs)
  · rw [hrun]
    exact hlocal

theorem local_begin (d : Dialog) : Local d (begin d).2 := by
  refine local_step .begin (fun s s' => ?_) d
  unfold Session.begin?
  split <;> rintro ⟨⟩
  rfl

theorem local_beginSub (d : Dialog) : Local d (beginSub d).2 := by
  refine local_step .beginSub (fun s s' => ?_) d
  unfold Session.beginSub?
  split <;> rintro ⟨⟩
  rfl

theorem local_releaseSub (d : Dialog) : Local d (releaseSub d).2 := by
  refine local_step .releaseSub (fun s s' => ?_) d
  unfold Session.releaseSub?
  split <;> rintro ⟨⟩
  rfl

/-- What a run in isolation leaves, however it ends. -/
structure Isolated (before : Dialog) (ending : Ending Outcome) (after : Dialog) : Prop where
  reach : Local before after
  depth_eq : ∀ o : Outcome, ending = .done o → after.session.depth = before.session.depth
  /-- An error takes all writes back. -/
  session_eq : ∀ e : BackendError, ending = .done (.raised e) → after.session = before.session

theorem isolated_of_not_done {before after : Dialog} {ending : Ending Outcome}
    (hreach : Local before after) (hending : ∀ o : Outcome, ending ≠ .done o) :
    Isolated before ending after :=
  ⟨hreach, fun o h => absurd h (hending o), fun e h => absurd h (hending (.raised e))⟩

theorem releaseSub?_nested {s : Session} {top parent : Layer} {rest : List Layer}
    (h : s.layers = top :: parent :: rest) :
    s.releaseSub? = .ok { s with layers := (top ++ parent) :: rest } := by
  rw [Session.releaseSub?, h]

theorem rollbackSub_nested {s : Session} {top parent : Layer} {rest : List Layer}
    (h : s.layers = top :: parent :: rest) :
    s.rollbackSub = { s with layers := parent :: rest } := by
  rw [Session.rollbackSub, h]

theorem isolated_leave {before : Dialog} {top : Layer} (hlocal : Local before d)
    (hlayers : d.session.layers = top :: before.session.layers)
    (hopen : before.session.layers ≠ []) (ending : Ending (Option String)) :
    Isolated before (leave ending d).1 (leave ending d).2 := by
  obtain ⟨parent, rest, hbefore⟩ := List.exists_cons_of_ne_nil hopen
  rw [hbefore] at hlayers
  -- An error and a panic both end in a rollback to the levels there were before.
  have hrolledBack (e : BackendError) : Isolated before (.done (.raised e))
      { d with session := d.session.rollbackSub } := by
    have hsession : d.session.rollbackSub = before.session := by
      rw [rollbackSub_nested hlayers, hlocal.database_eq, ← hbefore]
    rw [hsession]
    exact ⟨hlocal.of_session hlocal.database_eq.symm, fun _ _ => rfl, fun _ _ => rfl⟩
  cases ending with
  | done rejection =>
    have hcases := step_cases .releaseSub Session.releaseSub? d
    rw [releaseSub?_nested hlayers] at hcases
    obtain ⟨s, h, ⟨⟩, hreach, hrun⟩ | ⟨ending, h, hending, hreach, hrun⟩ := hcases
    · have hleave : leave (.done rejection) d = (.done (rejection.elim .accepted .rejected), _) :=
        bind_of_done hrun
      rw [hleave]
      refine ⟨hlocal.trans (hreach.of_session rfl), fun _ _ => ?_, fun e he => ?_⟩
      · simp [Session.depth, hbefore]
      · cases rejection <;> cases he
    · have hrelease : releaseSub d = _ := hrun
      obtain ⟨ending', hleave, hne⟩ := bind_of_not_done
        (f := fun _ => pure (rejection.elim Outcome.accepted .rejected)) hrelease fun _ => hending
      replace hleave : leave (.done rejection) d = _ := hleave
      rw [hleave]
      exact isolated_of_not_done (hlocal.trans hreach) hne
  | failed e => exact hrolledBack e
  | unwound p => exact hrolledBack (.ofPanic p)

/-- Whatever faults are planned, procedures run in isolation touch their level of the
session and the trace, and nothing is left of their writes if one raised an error. -/
theorem isolated_runIsolated (procedures : List QualifiedName) (args : Args)
    (ht : d.Transactional) (hopen : d.session.layers ≠ []) :
    Isolated d (runIsolated procedures args d).1 (runIsolated procedures args d).2 := by
  have hbegun : d.session.beginSub? =
      .ok { d.session with layers := [] :: d.session.layers } := by
    obtain ⟨top, rest, hlayers⟩ := List.exists_cons_of_ne_nil hopen
    rw [Session.beginSub?, hlayers]
  have hcases := step_cases .beginSub Session.beginSub? d
  rw [hbegun] at hcases
  rw [runIsolated_eq]
  obtain ⟨s, h, ⟨⟩, hreach, hrun⟩ | ⟨ending, h, hending, hreach, hrun⟩ := hcases
  · have hinside := hreach.of_session (s := { d.session with layers := [] :: d.session.layers }) rfl
    have hcalls := contained_callInOrder args procedures
      (hinside.transactional ht) (List.cons_ne_nil _ _)
    obtain ⟨top, hlayers⟩ := hcalls.session.layers_eq rfl
    have hbegin : beginSub d = (.done (), _) := hrun
    rw [bind_of_done hbegin]
    exact isolated_leave (hinside.trans hcalls.local) hlayers hopen _
  · have hbegin : beginSub d = _ := hrun
    obtain ⟨ending', hleave, hne⟩ := bind_of_not_done hbegin fun _ => hending
    rw [hleave]
    exact isolated_of_not_done hreach hne

/-- Procedures run in isolation that a fault strikes are not done, or have raised an
error. -/
theorem raised_of_struck (procedures : List QualifiedName) (args : Args)
    (hstruck : (runIsolated procedures args).Struck d) {o : Outcome}
    (hdone : (runIsolated procedures args d).1 = .done o) : ∃ e : BackendError, o = .raised e := by
  -- What is done before the calls, and calls that are done, were not struck; that leaves the
  -- release, which is not done then.
  have hbegin (u : Unit) (h : (beginSub d).1 = .done u) :=
    (orderly_beginSub.candid.spared_of_done h).threats_eq
  rw [Struck, runIsolated_eq, bind_apply] at hstruck
  rw [runIsolated_eq, bind_apply] at hdone
  generalize beginSub d = begun at *
  obtain ⟨ending, d₁⟩ := begun
  cases ending with
  | failed e => cases hdone
  | unwound p => cases hdone
  | done u =>
    have hcalls (r : Option String) (h : (callInOrder args procedures d₁).1 = .done r) :=
      ((candid_callInOrder args procedures).spared_of_done h).threats_eq
    dsimp only at hbegin hstruck hdone
    rw [← hbegin u rfl, bind_apply, observe] at hstruck
    rw [bind_apply, observe] at hdone
    generalize callInOrder args procedures d₁ = called at *
    obtain ⟨ending, d₂⟩ := called
    cases ending with
    | done rejection =>
      rw [← hcalls rejection rfl] at hstruck
      exact absurd hdone ((orderly_leave (.done rejection)).candid.not_done d₂ hstruck o)
    | failed e => exact ⟨e, (Ending.done.inj hdone).symm⟩
    | unwound p => exact ⟨.ofPanic p, (Ending.done.inj hdone).symm⟩

/-! ## In isolation, where no fault is planned -/

theorem values_eq_of {a b : Dialog} (hdatabase : a.session.database = b.session.database)
    (hpending : a.session.pending = b.session.pending)
    (hcatalog : a.host.catalog = b.host.catalog) : a.values = b.values := by
  rw [values, values, Session.get?_eq, Session.get?_eq, hdatabase, hpending, hcatalog]

/-- Leaving closes the level and gives the outcome of the calls, whose values are kept
unless that is an error. -/
theorem leave_of_unplanned (before : Dialog) {top : Layer} (hf : d.host.faults = .none)
    (hdatabase : d.session.database = before.session.database)
    (hlayers : d.session.layers = top :: before.session.layers)
    (hopen : before.session.layers ≠ []) (hcatalog : d.host.catalog = before.host.catalog)
    (ending : Ending (Option String)) :
    (leave ending d).1 = .done ending.outcome ∧ (leave ending d).2.host = d.host ∧
      (leave ending d).2.values =
        match ending.outcome with
        | .raised _ => before.values
        | _ => d.values := by
  obtain ⟨parent, rest, hbefore⟩ := List.exists_cons_of_ne_nil hopen
  rw [hbefore] at hlayers
  have hrolledBack : Dialog.values { d with session := d.session.rollbackSub } = before.values := by
    rw [rollbackSub_nested hlayers]
    exact values_eq_of hdatabase (by simp [Session.pending, hbefore]) hcatalog
  cases ending with
  | done rejection =>
    have hleave : leave (.done rejection) d = (.done (rejection.elim .accepted .rejected), _) :=
      bind_of_done (releaseSub_of_nested hf hlayers)
    have hvalues : Dialog.values
        { d with session := { d.session with layers := (top ++ parent) :: rest } } = d.values :=
      values_eq_of rfl (by simp [Session.pending, hlayers]) rfl
    rw [hleave]
    cases rejection <;> exact ⟨rfl, rfl, hvalues⟩
  | failed e => exact ⟨rfl, rfl, hrolledBack⟩
  | unwound p => exact ⟨rfl, rfl, hrolledBack⟩

/-- Procedures run in isolation come to what they come to in the database. -/
theorem runIsolated_of_unplanned (procedures : List QualifiedName) (args : Args)
    (hf : d.host.faults = .none) (hopen : d.session.layers ≠ [])
    (hdb : d.host.catalog.databases.get? d.session.database = some db) (ht : db.Transactional) :
    (runIsolated procedures args d).1 =
        .done (db.isolate args (procedures.map (·.key)) d.values).1 ∧
      (runIsolated procedures args d).2.values =
        (db.isolate args (procedures.map (·.key)) d.values).2 ∧
      ∃ trace : List String, (runIsolated procedures args d).2.host = { d.host with trace } := by
  let inside : Dialog := { d with session := { d.session with layers := [] :: d.session.layers } }
  have hinside : inside.values = d.values := values_eq_of rfl rfl rfl
  have hwithin := (confined_callInOrder args procedures inside).session
  obtain ⟨top, hlayers⟩ := hwithin.layers_eq rfl
  obtain ⟨hending, hvalues, trace, hhost⟩ := callInOrder_of_unplanned (d := inside) args procedures
    hf (List.cons_ne_nil _ _) hdb ht
  obtain ⟨hdone, hleft, hkept⟩ := leave_of_unplanned d (by rw [hhost]; exact hf)
    hwithin.database_eq hlayers hopen (by rw [hhost]) (callInOrder args procedures inside).1
  have hrun : runIsolated procedures args d =
      leave (callInOrder args procedures inside).1 (callInOrder args procedures inside).2 := by
    rw [runIsolated_eq, bind_of_done (beginSub_of_open hf hopen)]
    rfl
  rw [hinside] at hending hvalues
  rw [hrun, hdone, hkept, hleft, hhost, hending, Database.isolate]
  rw [hvalues]
  generalize db.hear args (procedures.map (·.key)) d.values = heard
  obtain ⟨outcome, v⟩ := heard
  cases outcome <;> exact ⟨rfl, rfl, trace, rfl⟩

end Dialog

end Admission
