import Admission.Proofs.FaultSort
import Admission.Proofs.Procedure.Policy

set_option autoImplicit false

/-!
# When a release fails

A run in isolation opens a level and closes it again on every way out but one: where the
release itself fails, the level stays open with all that the procedures wrote.  So a run
is atomic exactly if no fault strikes its release.
-/

namespace Admission

open Attempt

/-- The session with one more level open, in which nothing is written. -/
def Session.nested (s : Session) : Session :=
  { s with layers := [] :: s.layers }

/-- As many levels are open as before, and the pending writes are what they were unless
some may be kept. -/
structure Session.Atomic (before after : Session) (kept : Prop) : Prop where
  depth_eq : after.depth = before.depth
  eq_of_not_kept : ¬ kept → after = before

/-- One level more than before is open, over levels that are what they were. -/
def Session.Stranded (before after : Session) : Prop :=
  ∃ top : Layer, after = { before with layers := top :: before.layers }

namespace Session

variable {before after : Session} {kept kept' : Prop}

theorem Atomic.refl (s : Session) (kept : Prop) : Atomic s s kept :=
  ⟨rfl, fun _ => rfl⟩

theorem Atomic.mono (h : Atomic before after kept) (hkept : kept → kept') :
    Atomic before after kept' :=
  ⟨h.depth_eq, fun hnot => h.eq_of_not_kept fun hk => hnot (hkept hk)⟩

/-- Inside a level of their own, procedures leave that level over those there were. -/
theorem Within.stranded (h : Within before.nested after) :
    before.Stranded after := by
  obtain ⟨database, layers⟩ := after
  obtain ⟨top, hlayers⟩ := h.layers_eq rfl
  have hdatabase : database = before.database := h.database_eq
  dsimp only at hlayers
  exact ⟨top, by rw [hlayers, hdatabase]⟩

theorem Stranded.not_atomic (h : Stranded before after) : ¬ Atomic before after kept := by
  intro hatomic
  obtain ⟨top, rfl⟩ := h
  exact Nat.succ_ne_self _ hatomic.depth_eq

end Session

/-- The procedures were heard: nobody objected, or one gave a reason to reject. -/
def Outcome.Heard : Outcome → Prop
  | .raised _ => False
  | .accepted | .rejected _ => True

namespace Dialog

variable {α : Type} {sort : FaultSort} {d : Dialog} {procedures : List QualifiedName}
  {args : Args}

/-! ## Calls of other points -/

theorem evades_strike {point : FaultPoint} (h : ∀ fault : Fault, sort point fault = false) :
    (onHost (Host.strike point)).Evades sort :=
  (Host.evades_strike h).onPart holdsPlan_host

theorem evades_of_host {x : Attempt Dialog α} (h : ∀ d : Dialog,
    (x d).2.host.faults = d.host.faults) : x.Evades sort :=
  fun d => congrArg (FaultPlan.threatsBy sort) (h d)

theorem evades_step (f : Session → Except BackendError Session) : (step f).Evades sort :=
  evades_ofExcept fun _ _ => rfl

theorem evades_database : database.Evades sort :=
  evades_ofExcept fun _ _ => rfl

theorem evades_close : close.Evades sort := by
  refine evades_of_host fun d => ?_
  unfold close
  split
  · rfl
  · dsimp only
    split <;> rfl

/-- A decision from the catalog evades what threatens neither of its two questions. -/
theorem evades_evaluate (hinstalled : ∀ fault : Fault, sort .catalogInstalled fault = false)
    (hentries : ∀ fault : Fault, sort .featureEntries fault = false) (feature : Feature)
    (mode : Mode) : (evaluate feature mode).Evades sort := by
  unfold evaluate
  split
  · exact keeps_pure _
  · refine Keeps.bind ?_ fun installed => ?_
    · exact (evades_strike hinstalled).bind fun _ => evades_database.bind fun _ => keeps_pure _
    · split
      · exact keeps_pure _
      · refine Keeps.bind ?_ fun names => ?_
        · refine Keeps.bind ?_ fun entries => evades_ofExcept fun _ _ => rfl
          exact (evades_strike hentries).bind fun _ => evades_database.bind fun _ => keeps_pure _
        · split <;> exact keeps_pure _

/-- Procedures use up nothing but what is planned for calls of procedures. -/
theorem evades_callInOrder (h : ∀ (point : FaultPoint) (fault : Fault),
    sort point fault = true → point.isProcedural = false) (args : Args)
    (procedures : List QualifiedName) : (callInOrder args procedures).Evades sort := by
  refine evades_of_upcoming fun d point hpoint => ?_
  obtain ⟨fault, hfault⟩ := hpoint
  have hplain := h point fault hfault
  refine (confined_callInOrder args procedures d).upcoming_eq point ?_ ?_ <;>
    · rintro rfl
      cases hplain

/-- A run in isolation evades what threatens neither its procedures nor its level. -/
theorem evades_runIsolated (hcalls : ∀ (point : FaultPoint) (fault : Fault),
      sort point fault = true → point.isProcedural = false)
    (hopening : ∀ fault : Fault, sort .beginSub fault = false)
    (hclosing : ∀ fault : Fault, sort .releaseSub fault = false)
    (procedures : List QualifiedName) (args : Args) :
    (runIsolated procedures args).Evades sort := by
  have hbody : (callInOrder args procedures).observe.Evades sort :=
    evades_callInOrder hcalls args procedures
  rw [runIsolated_eq]
  refine Keeps.bind ?_ fun _ => hbody.bind fun ending => ?_
  · exact (evades_strike hopening).bind fun _ => evades_step _
  · cases ending with
    | done rejection =>
      refine Keeps.bind ?_ fun _ => keeps_pure _
      exact (evades_strike hclosing).bind fun _ => evades_step _
    | failed e => exact fun _ => rfl
    | unwound p => exact fun _ => rfl

/-! ## The release -/

theorem releaseSub_struckBy_iff :
    releaseSub.StruckBy .release d ↔ (d.host.faults.next .releaseSub).1 ≠ none := by
  have hstrike : (Host.strike .releaseSub).StruckBy .release d.host ↔ _ :=
    Host.struckBy_strike_iff
  rw [releaseSub, struckBy_bind_iff fun _ => evades_step _, onHost,
    struckBy_onPart_iff holdsPlan_host, hstrike, Option.ne_none_iff_exists']
  simp [FaultSort.ofPoint]

/-- A release closes the innermost level, or a fault strikes it and it leaves the session
alone. -/
theorem releaseSub_cases {top parent : Layer} {rest : List Layer}
    (hlayers : d.session.layers = top :: parent :: rest) :
    (¬ releaseSub.StruckBy .release d ∧ ∃ h : Host, releaseSub d =
      (.done (), ⟨{ d.session with layers := (top ++ parent) :: rest }, h⟩)) ∨
    releaseSub.StruckBy .release d ∧ ∃ (ending : Ending Unit) (h : Host), ending ≠ .done () ∧
      releaseSub d = (ending, ⟨d.session, h⟩) := by
  rw [releaseSub_struckBy_iff, releaseSub, bind_apply, onHost, onPart_apply]
  cases hnext : (d.host.faults.next .releaseSub).1 with
  | none =>
    rw [Host.strike_of_none hnext]
    refine .inl ⟨fun h => h rfl, _, step_of_ok ?_⟩
    exact releaseSub?_nested hlayers
  | some fault =>
    rw [Host.strike_of_some hnext]
    refine .inr ⟨Option.some_ne_none fault, ?_⟩
    cases fault with
    | error message => exact ⟨_, _, by rintro ⟨⟩, rfl⟩
    | panic message => exact ⟨_, _, by rintro ⟨⟩, rfl⟩

/-! ## Runs in isolation -/

/-- Leaving a level restores the levels below, or leaves the session as it is. -/
theorem leave_cases {before : Session} (hsession : before.Stranded d.session)
    (hopen : before.layers ≠ []) (ending : Ending (Option String)) :
    (¬ (leave ending).StruckBy .release d ∧ before.Atomic (leave ending d).2.session
      (∃ o : Outcome, (leave ending d).1 = .done o ∧ o.Heard)) ∨
    (leave ending).StruckBy .release d ∧ (leave ending d).2.session = d.session := by
  obtain ⟨top, hsession⟩ := hsession
  obtain ⟨parent, rest, hbefore⟩ := List.exists_cons_of_ne_nil hopen
  have hlayers : d.session.layers = top :: parent :: rest := by rw [hsession, hbefore]
  have hrolledBack (e : BackendError) :
      before.Atomic (leave (.failed e) d).2.session
        (∃ o : Outcome, (leave (.failed e) d).1 = .done o ∧ o.Heard) := by
    have hsession : d.session.rollbackSub = before := by
      rw [rollbackSub_nested hlayers, hsession, ← hbefore]
    exact hsession ▸ .refl _ _
  cases ending with
  | failed e => exact .inl ⟨Keeps.not_struckBy (fun _ => rfl) d, hrolledBack e⟩
  | unwound p => exact .inl ⟨Keeps.not_struckBy (fun _ => rfl) d, hrolledBack (.ofPanic p)⟩
  | done rejection =>
    rw [leave, struckBy_bind_iff fun _ => keeps_pure _]
    obtain ⟨hspared, h, hrun⟩ | ⟨hstruck, ending, h, hending, hrun⟩ := releaseSub_cases hlayers
    · rw [bind_of_done hrun]
      refine .inl ⟨hspared, ?_, fun hnot => ?_⟩
      · simp [Session.depth, hbefore]
      · refine absurd ⟨_, rfl, ?_⟩ hnot
        cases rejection <;> trivial
    · refine .inr ⟨hstruck, ?_⟩
      rw [bind_apply, hrun]
      cases ending with
      | done u => exact absurd rfl hending
      | failed e => rfl
      | unwound p => rfl

/-- Only calls that are done are followed by a release. -/
theorem done_of_struckBy_leave {ending : Ending (Option String)}
    (hstruck : (leave ending).StruckBy .release d) :
    ∃ rejection : Option String, ending = .done rejection := by
  cases ending with
  | done rejection => exact ⟨rejection, rfl⟩
  | failed e => exact absurd hstruck (Keeps.not_struckBy (fun _ => rfl) d)
  | unwound p => exact absurd hstruck (Keeps.not_struckBy (fun _ => rfl) d)

/-- A run in isolation does not get its level, or it calls the procedures in it and then
leaves it. -/
theorem runIsolated_cases (procedures : List QualifiedName) (args : Args)
    (hopen : d.session.layers ≠ []) :
    (¬ (runIsolated procedures args).StruckBy .release d ∧
      (runIsolated procedures args d).2.session = d.session) ∨
    ∃ (h : Host) (called : Ending (Option String) × Dialog),
      beginSub d = (.done (), ⟨d.session.nested, h⟩) ∧
      callInOrder args procedures ⟨d.session.nested, h⟩ = called ∧
      d.session.Stranded called.2.session ∧
      runIsolated procedures args d = leave called.1 called.2 ∧
      ((runIsolated procedures args).StruckBy .release d ↔
        (leave called.1).StruckBy .release called.2) := by
  have hbegun : d.session.beginSub? = .ok d.session.nested := by
    obtain ⟨top, rest, hlayers⟩ := List.exists_cons_of_ne_nil hopen
    rw [Session.beginSub?, Session.nested, hlayers]
  have hbeginSub : beginSub.Evades .release :=
    Keeps.bind (evades_strike fun _ => rfl) fun _ => evades_step _
  have hcalls : (callInOrder args procedures).observe.Evades .release :=
    evades_callInOrder (by rintro point fault h; obtain rfl := of_decide_eq_true h; rfl) args
      procedures
  have hcases := step_cases .beginSub Session.beginSub? d
  rw [hbegun] at hcases
  obtain ⟨s, h, ⟨⟩, -, hrun⟩ | ⟨ending, h, hending, -, hrun⟩ := hcases
  all_goals replace hrun : beginSub d = _ := hrun
  · refine .inr ⟨h, _, hrun, rfl, ?_, ?_, ?_⟩
    · exact (confined_callInOrder args procedures ⟨d.session.nested, h⟩).session.stranded
    · rw [runIsolated_eq, bind_of_done hrun]
      rfl
    · rw [runIsolated_eq, struckBy_bind_of_done hbeginSub hrun]
      exact struckBy_bind_of_done hcalls rfl
  · obtain ⟨ending', hended, -⟩ := bind_of_not_done
      (f := fun _ => (callInOrder args procedures).observe >>= leave) hrun fun _ => hending
    have hkept := hbeginSub d
    rw [hrun] at hkept
    rw [runIsolated_eq, StruckBy, hended]
    exact .inl ⟨Nat.not_lt_of_le (Nat.le_of_eq hkept.symm), rfl⟩

/-- A run in isolation is atomic, unless a fault strikes its release. -/
theorem atomic_or_stranded_runIsolated (procedures : List QualifiedName) (args : Args)
    (hopen : d.session.layers ≠ []) :
    (¬ (runIsolated procedures args).StruckBy .release d ∧
      d.session.Atomic (runIsolated procedures args d).2.session
        (∃ o : Outcome, (runIsolated procedures args d).1 = .done o ∧ o.Heard)) ∨
    (runIsolated procedures args).StruckBy .release d ∧
      d.session.Stranded (runIsolated procedures args d).2.session := by
  obtain ⟨hspared, hsession⟩ | ⟨h, called, -, -, hleft, hrun, hiff⟩ :=
    runIsolated_cases procedures args hopen
  · rw [hsession]
    exact .inl ⟨hspared, .refl _ _⟩
  · rw [hiff, hrun]
    obtain hatomic | ⟨hstruck, hsession⟩ := leave_cases hleft hopen called.1
    · exact .inl hatomic
    · exact .inr ⟨hstruck, hsession ▸ hleft⟩

end Dialog

end Admission
