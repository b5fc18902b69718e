import Admission.Proofs.Fault
import Admission.Proofs.Session.View
import Admission.Session.Dialog

set_option autoImplicit false

/-!
# The steps of a session, where no fault is planned

What each step of a session answers and leaves, and when a commit is taken.
-/

namespace Admission.Dialog

variable {d : Dialog} {α : Type}

/-- Where no fault is planned, what follows a call decides. -/
theorem strike_bind (hf : d.host.faults = .none) (point : FaultPoint)
    (f : Unit → Attempt Dialog α) : (onHost (Host.strike point) >>= f) d = f () d := by
  have hstrike : onHost (Host.strike point) d = (.done (), d) := by
    rw [onHost, Attempt.onPart_apply, Host.strike_of_unplanned hf]
  exact Attempt.bind_of_done hstrike

theorem step_of_ok {f : Session → Except BackendError Session} {s : Session}
    (h : f d.session = .ok s) : step f d = (.done (), { d with session := s }) := by
  rw [step, Attempt.ofExcept, h]
  rfl

theorem step_of_error {f : Session → Except BackendError Session} {e : BackendError}
    (h : f d.session = .error e) : step f d = (.failed e, d) := by
  rw [step, Attempt.ofExcept, h]
  rfl

/-- A commit behind its fault point. -/
def close : Attempt Dialog Unit := fun d =>
  if d.session.layers = [] then
    (.failed ⟨"there is no transaction in progress", none⟩, d)
  else
    let ended := { d with session := d.session.rollback }
    match d.session.commitTo? d.host.catalog with
    | .error e => (.failed e, ended)
    | .ok c => (.done (), { ended with host := { d.host with catalog := c } })

theorem commit_eq : commit = onHost (Host.strike .commit) >>= fun _ => close := rfl

theorem close_of_closed (h : d.session.layers = []) :
    close d = (.failed ⟨"there is no transaction in progress", none⟩, d) := by
  rw [close, if_pos h]

theorem close_of_missing (h : d.session.layers ≠ [])
    (hdb : d.host.catalog.databases.get? d.session.database = none) :
    close d = (.failed (noDatabase d.session.database),
      { d with session := d.session.rollback }) := by
  rw [close, if_neg h, Session.commitTo?_of_missing hdb]

theorem close_of_open (h : d.session.layers ≠ []) {db : Database}
    (hdb : d.host.catalog.databases.get? d.session.database = some db) :
    close d = (.done (),
      { session := d.session.rollback
        host := { d.host with catalog := d.session.committed d.host.catalog db } }) := by
  rw [close, if_neg h, Session.commitTo?_of_get? hdb]

section Unplanned

variable (hf : d.host.faults = .none)

include hf

theorem begin_of_closed (h : d.session.layers = []) :
    begin d = (.done (), { d with session := { d.session with layers := [[]] } }) := by
  rw [begin, strike_bind hf]
  exact step_of_ok (by rw [Session.begin?, h])

theorem begin_of_open (h : d.session.layers ≠ []) :
    begin d = (.failed ⟨"there is already a transaction in progress", none⟩, d) := by
  obtain ⟨top, rest, hlayers⟩ := List.exists_cons_of_ne_nil h
  rw [begin, strike_bind hf]
  exact step_of_error (by rw [Session.begin?, hlayers])

theorem beginSub_of_open (h : d.session.layers ≠ []) :
    beginSub d =
      (.done (), { d with session := { d.session with layers := [] :: d.session.layers } }) := by
  obtain ⟨top, rest, hlayers⟩ := List.exists_cons_of_ne_nil h
  rw [beginSub, strike_bind hf]
  exact step_of_ok (by rw [Session.beginSub?, hlayers])

theorem beginSub_of_closed (h : d.session.layers = []) :
    beginSub d = (.failed ⟨"sub-transaction outside a transaction", none⟩, d) := by
  rw [beginSub, strike_bind hf]
  exact step_of_error (by rw [Session.beginSub?, h])

theorem releaseSub_of_nested {top parent : Layer} {rest : List Layer}
    (h : d.session.layers = top :: parent :: rest) :
    releaseSub d =
      (.done (), { d with session := { d.session with layers := (top ++ parent) :: rest } }) := by
  rw [releaseSub, strike_bind hf]
  exact step_of_ok (by rw [Session.releaseSub?, h])

theorem releaseSub_of_flat (h : d.session.layers.length ≤ 1) :
    releaseSub d = (.failed ⟨"no sub-transaction in progress", none⟩, d) := by
  rw [releaseSub, strike_bind hf]
  refine step_of_error ?_
  unfold Session.releaseSub?
  split
  · rename_i hlayers
    rw [hlayers] at h
    simp at h
  · rfl

theorem commit_eq_close : commit d = close d := by
  rw [commit_eq, strike_bind hf]

end Unplanned

end Admission.Dialog
