import Admission.Proofs.Procedure.Hearing

set_option autoImplicit false

/-!
# Kinds of results

A procedure has no opinion, rejects, raises an error or panics.  When procedures are run
in isolation, these kinds alone decide whether all of them are called, how the calls end
and which sort of outcome there is; the texts that come with them decide nothing.
-/

namespace Admission

open Attempt

/-- The kinds of results of a procedure. -/
inductive ResultKind where
  | noOpinion
  | rejection
  | raise
  | panic
  deriving DecidableEq, Repr

/-- The kind of an ending, when a value may give a reason to reject. -/
def Ending.kind {α : Type} (reason? : α → Option String) : Ending α → ResultKind
  | .done a => if (reason? a).isSome then .rejection else .noOpinion
  | .failed _ => .raise
  | .unwound _ => .panic

/-- The value of an ending, if it has one. -/
def Ending.value? {α : Type} : Ending α → Option α
  | .done a => some a
  | _ => none

theorem Ending.value?_eq_some_iff {α : Type} {ending : Ending α} {a : α} :
    ending.value? = some a ↔ ending = .done a := by
  cases ending <;> simp [Ending.value?]

/-- Outcomes of one sort. -/
inductive Outcome.Alike : Outcome → Outcome → Prop where
  | accepted : Alike .accepted .accepted
  | rejected (reason reason' : String) : Alike (.rejected reason) (.rejected reason')
  | raised (e e' : BackendError) : Alike (.raised e) (.raised e')

namespace Dialog

variable {d d' : Dialog} {args args' : Args} {procedures : List QualifiedName}

/-! ## Calls in order -/

/-- The kinds of results of the calls that are made in order. -/
def kinds (args : Args) : List QualifiedName → Dialog → List ResultKind
  | [], _ => []
  | p :: rest, d =>
    let kind := (call p args d).1.kind Output.rejection?
    kind :: if kind = .noOpinion then kinds args rest (call p args d).2 else []

/-- The last result decides how the calls end. -/
theorem kind_callInOrder (args : Args) (procedures : List QualifiedName) (d : Dialog) :
    (callInOrder args procedures d).1.kind id =
      (kinds args procedures d).getLast?.getD .noOpinion := by
  induction procedures generalizing d with
  | nil => rfl
  | cons p rest ih =>
    rw [callInOrder, bind_apply, kinds]
    generalize call p args d = called
    obtain ⟨ending, d'⟩ := called
    cases ending with
    | failed e => rfl
    | unwound p => rfl
    | done o =>
      cases hreason : o.rejection? with
      | some reason => simp [Ending.kind, hreason]
      | none =>
        have hkind : (Ending.done o).kind Output.rejection? = .noOpinion := by
          simp [Ending.kind, hreason]
        simp only [hreason, hkind, if_true, List.getLast?_cons, Option.getD_some]
        exact ih d'

/-- Only the last result can be anything but no opinion, so what else there is among the
results is how the calls end. -/
theorem mem_kinds_iff {kind : ResultKind} (hkind : kind ≠ .noOpinion) :
    kind ∈ kinds args procedures d ↔ (callInOrder args procedures d).1.kind id = kind := by
  rw [kind_callInOrder]
  induction procedures generalizing d with
  | nil => simp [kinds, hkind.symm]
  | cons p rest ih =>
    rw [kinds]
    generalize (call p args d).1.kind Output.rejection? = first
    by_cases hfirst : first = .noOpinion
    · simp [hfirst, hkind, ih, List.getLast?_cons]
    · simp [hfirst, eq_comm]

/-! ## Closing a sub-transaction -/

theorem step_releaseSub_fst (d : Dialog) :
    (step Session.releaseSub? d).1 =
      if 2 ≤ d.session.depth then .done ()
      else .failed ⟨"no sub-transaction in progress", none⟩ := by
  obtain ⟨⟨database, layers⟩, host⟩ := d
  rcases layers with _ | ⟨top, _ | ⟨parent, rest⟩⟩
  · rfl
  · rfl
  · rw [if_pos (by simp [Session.depth])]
    rfl

/-- How deep a session is and what is planned for it decide whether it can release. -/
theorem releaseSub_congr (hdepth : d.session.depth = d'.session.depth)
    (hplan : d.host.faults.upcoming .releaseSub = d'.host.faults.upcoming .releaseSub) :
    (releaseSub d).1 = (releaseSub d').1 := by
  have hstrike : (Host.strike .releaseSub d.host).1 = (Host.strike .releaseSub d'.host).1 := by
    simp only [Host.strike, FaultPlan.next, hplan]
  rw [releaseSub, bind_apply, bind_apply, onHost, onPart_apply, onPart_apply]
  generalize Host.strike .releaseSub d.host = struck at hstrike
  generalize Host.strike .releaseSub d'.host = struck' at hstrike
  obtain ⟨ending, h⟩ := struck
  obtain ⟨_, h'⟩ := struck'
  obtain rfl := hstrike
  cases ending with
  | done _ =>
    dsimp only
    rw [step_releaseSub_fst, step_releaseSub_fst, hdepth]
  | failed e => rfl
  | unwound p => rfl

/-! ## In isolation -/

/-- After calls that ended alike, runs in isolation come to outcomes of one sort, or
neither comes to any. -/
theorem alike_leave {ending ending' : Ending (Option String)}
    (hkind : ending.kind id = ending'.kind id)
    (hdepth : d.session.depth = d'.session.depth)
    (hplan : d.host.faults.upcoming .releaseSub = d'.host.faults.upcoming .releaseSub) :
    Option.Rel Outcome.Alike (leave ending d).1.value? (leave ending' d').1.value? := by
  have hrelease := releaseSub_congr hdepth hplan
  -- Endings of different kinds are out; where both calls are done, the release decides.
  cases ending with
  | failed e =>
    cases ending' with
    | failed e' => exact .some (.raised _ _)
    | unwound p' => cases hkind
    | done reason => cases reason <;> cases hkind
  | unwound p =>
    cases ending' with
    | failed e' => cases hkind
    | unwound p' => exact .some (.raised _ _)
    | done reason => cases reason <;> cases hkind
  | done reason =>
    cases ending' with
    | failed e' => cases reason <;> cases hkind
    | unwound p' => cases reason <;> cases hkind
    | done reason' =>
      simp only [leave, bind_apply]
      generalize releaseSub d = released at hrelease
      generalize releaseSub d' = released' at hrelease
      obtain ⟨ending, d₁⟩ := released
      obtain ⟨_, d₁'⟩ := released'
      obtain rfl := hrelease
      cases ending with
      | failed e => exact .none
      | unwound p => exact .none
      | done _ =>
        cases reason with
        | none =>
          cases reason' with
          | none => exact .some .accepted
          | some text => cases hkind
        | some text =>
          cases reason' with
          | none => cases hkind
          | some text' => exact .some (.rejected _ _)

/-- The kinds of results in a run in isolation. -/
def isolatedKinds (procedures : List QualifiedName) (args : Args) (d : Dialog) :
    List ResultKind :=
  match beginSub d with
  | (.done (), d) => kinds args procedures d
  | _ => []

/-- Runs in isolation with results of the same kinds come to outcomes of one sort. -/
theorem alike_runIsolated {procedures : List QualifiedName}
    (hkinds : isolatedKinds procedures args d = isolatedKinds procedures args' d) :
    Option.Rel Outcome.Alike (runIsolated procedures args d).1.value?
      (runIsolated procedures args' d).1.value? := by
  rw [runIsolated_eq, runIsolated_eq, bind_apply, bind_apply]
  unfold isolatedKinds at hkinds
  generalize beginSub d = begun at hkinds ⊢
  obtain ⟨ending, d₁⟩ := begun
  cases ending with
  | failed e => exact .none
  | unwound p => exact .none
  | done _ =>
    dsimp only at hkinds
    -- No procedure reaches the depth of the session or what is planned for the release.
    have hwithin := confined_callInOrder args procedures d₁
    have hwithin' := confined_callInOrder args' procedures d₁
    refine alike_leave ?_ ?_ ?_
    · rw [kind_callInOrder, kind_callInOrder, hkinds]
    · exact hwithin.session.depth_eq.trans hwithin'.session.depth_eq.symm
    · exact (hwithin.upcoming_eq .releaseSub nofun nofun).trans
        (hwithin'.upcoming_eq .releaseSub nofun nofun).symm

/-- A run in isolation that is done raises an error exactly if a procedure does, or
panics. -/
theorem raised_iff_kinds (procedures : List QualifiedName) (args : Args) (d : Dialog) :
    (∃ e : BackendError, (runIsolated procedures args d).1 = .done (.raised e)) ↔
      .raise ∈ isolatedKinds procedures args d ∨ .panic ∈ isolatedKinds procedures args d := by
  rw [runIsolated_eq, bind_apply]
  unfold isolatedKinds
  generalize beginSub d = begun
  obtain ⟨ending, d₁⟩ := begun
  cases ending with
  | failed e => simp
  | unwound p => simp
  | done _ =>
    dsimp only
    rw [mem_kinds_iff (by decide), mem_kinds_iff (by decide), bind_apply, observe]
    generalize callInOrder args procedures d₁ = called
    obtain ⟨ending, d₂⟩ := called
    cases ending with
    | failed e => exact ⟨fun _ => .inl rfl, fun _ => ⟨e, rfl⟩⟩
    | unwound p => exact ⟨fun _ => .inr rfl, fun _ => ⟨.ofPanic p, rfl⟩⟩
    | done reason =>
      -- What nobody raised is not raised by closing the level either.
      have hkind : (Ending.done reason).kind id ≠ .raise ∧
          (Ending.done reason).kind id ≠ .panic := by
        cases reason <;> simp [Ending.kind]
      refine ⟨?_, fun h => absurd h (not_or.mpr hkind)⟩
      simp only [leave, bind_apply]
      generalize releaseSub d₂ = released
      obtain ⟨ending, d₃⟩ := released
      cases ending with
      | failed e => rintro ⟨_, ⟨⟩⟩
      | unwound p => rintro ⟨_, ⟨⟩⟩
      | done _ => cases reason <;> rintro ⟨_, ⟨⟩⟩

/-- A run in isolation raises an error only if a procedure does, or panics. -/
theorem not_raised_of_kinds {procedures : List QualifiedName}
    (hraise : .raise ∉ isolatedKinds procedures args d)
    (hpanic : .panic ∉ isolatedKinds procedures args d) (e : BackendError) :
    (runIsolated procedures args d).1.value? ≠ some (.raised e) := by
  intro hvalue
  have hdone := Ending.value?_eq_some_iff.mp hvalue
  rcases (raised_iff_kinds procedures args d).mp ⟨e, hdone⟩ with h | h
  · exact hraise h
  · exact hpanic h

/-- A run in isolation that is done has called a procedure if there is one. -/
theorem isolatedKinds_ne_nil {procedures : List QualifiedName} {o : Outcome}
    (hne : procedures ≠ []) (hdone : (runIsolated procedures args d).1 = .done o) :
    isolatedKinds procedures args d ≠ [] := by
  rw [runIsolated_eq, bind_apply] at hdone
  unfold isolatedKinds
  generalize beginSub d = begun at hdone ⊢
  obtain ⟨ending, d₁⟩ := begun
  cases ending with
  | failed e => cases hdone
  | unwound p => cases hdone
  | done _ =>
    cases procedures with
    | nil => exact absurd rfl hne
    | cons p rest => exact List.cons_ne_nil _ _

end Dialog

end Admission
