import Admission.Proofs.Decision.Execute

set_option autoImplicit false

/-!
# Sessions at rest

A decision that is done leaves its session on the database where it was, with no
transaction open, whatever the procedures do and whatever faults strike.
-/

namespace Admission

open Attempt

namespace Dialog

variable {α β : Type}

/-- However the attempt ends, the session is on the database where it was. -/
def Remains (x : Attempt Dialog α) : Prop :=
  ∀ d : Dialog, (x d).2.session.database = d.session.database

theorem Remains.bind {x : Attempt Dialog α} {f : α → Attempt Dialog β} (hx : Remains x)
    (hf : ∀ a : α, Remains (f a)) : Remains (x >>= f) :=
  kept_bind (fun d : Dialog => d.session.database) hx hf

theorem remains_runIsolated (procedures : List QualifiedName) (args : Args) :
    Remains (runIsolated procedures args) := by
  have hbegin : Remains beginSub := fun d => (local_beginSub d).database_eq
  have hrelease : Remains releaseSub := fun d => (local_releaseSub d).database_eq
  have hback : Remains rollbackSub := fun d => d.session.rollbackSub_database
  have hcalls : Remains (callInOrder args procedures).observe := fun d =>
    (confined_callInOrder args procedures d).session.database_eq
  rw [runIsolated_eq]
  refine hbegin.bind fun _ => hcalls.bind fun ending => ?_
  cases ending with
  | done rejection => exact hrelease.bind fun _ _ => rfl
  | failed e => exact hback.bind fun _ _ => rfl
  | unwound p => exact hback.bind fun _ _ => rfl

/-- A commit that is done leaves no level open. -/
theorem commit_of_done {d : Dialog} (h : (commit d).1 = .done ()) :
    (commit d).2.session = d.session.rollback := by
  obtain ⟨c, plan, -, hrun⟩ | ⟨ending, s, plan, hending, hrun⟩ := commit_cases d
  · rw [hrun]
  · rw [hrun] at h
    exact absurd h hending

end Dialog

namespace Duty

variable {u : Duty} {mode : Mode} {r : Request}

theorem consult_database (mode : Mode) (r : Request) (u : Duty) :
    (consult mode r u).2.dialog.session.database = u.dialog.session.database := by
  refine kept_bind (fun u : Duty => u.dialog.session.database) (fun u => ?_) (fun check u => ?_) u
  · exact congrArg Session.database (Dialog.looks_evaluate .clientauth mode u.dialog).1
  · cases check with
    | accept reason => rfl
    | reject failure => rfl
    | run procedures =>
      refine kept_bind (fun u : Duty => u.dialog.session.database) (fun u => ?_) (fun o u => ?_) u
      · exact Dialog.remains_runIsolated procedures (.clientauth r.connection r.status) u.dialog
      · obtain ⟨log, metrics, hnote⟩ := noteOutcome_apply r.connection.user o u
        rw [bind_of_done hnote, pure_apply]

/-- A decision that is done leaves no level of its session open. -/
theorem execute_of_done (mode : Mode) (r : Request) (u : Duty) {rejection : Option String}
    (h : (execute mode r u).1 = .done rejection) :
    (execute mode r u).2.dialog.session = ⟨u.dialog.session.database, []⟩ := by
  have hbegin := (Dialog.local_begin u.dialog).database_eq
  rw [execute_eq, bracket_eq, bind_apply, inSession, onPart_apply] at h ⊢
  generalize Dialog.begin u.dialog = begun at *
  obtain ⟨ending, d⟩ := begun
  cases ending with
  | failed e => cases h
  | unwound p => cases h
  | done _ =>
    have hconsult := consult_database mode r ⟨d, u.metrics⟩
    dsimp only at h ⊢
    rw [bind_apply, observe] at h ⊢
    generalize consult mode r ⟨d, u.metrics⟩ = consulted at *
    obtain ⟨ending, v⟩ := consulted
    cases ending with
    | failed e => cases h
    | unwound p => cases h
    | done _ =>
      have hcommit := Dialog.commit_of_done (d := v.dialog)
      dsimp only at h ⊢
      rw [wrapUp, bind_apply, inSession, onPart_apply] at h ⊢
      generalize Dialog.commit v.dialog = committed at *
      obtain ⟨ending, d'⟩ := committed
      cases ending with
      | failed e => cases h
      | unwound p => cases h
      | done _ =>
        have hsession : d'.session = v.dialog.session.rollback := hcommit rfl
        exact hsession.trans (by rw [Session.rollback, hconsult, hbegin])

end Duty

end Admission
