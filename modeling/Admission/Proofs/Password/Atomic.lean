import Admission.Proofs.Password.Lines
import Admission.Proofs.Procedure.Release

set_option autoImplicit false

/-!
# Checks that leave nothing behind

A password is checked in the transaction of whoever sets it, which goes on afterwards.  A
check that returns an error should therefore leave the session as it was, and so it does
unless its release failed: then what the procedures wrote is still there, in a level that
nobody closes.
-/

namespace Admission

open Attempt

/-- The attempt returns where only errors are planned, it is atomic exactly if no fault
strikes a release, and otherwise it leaves one level more open. -/
structure Dialog.HingesOnRelease {α : Type} (x : Attempt Dialog α) (kept : Prop)
    (d : Dialog) : Prop where
  returns : d.host.faults.ErrorsOnly → ∀ p : PanicPayload, (x d).1 ≠ .unwound p
  atomic_iff : d.session.Atomic (x d).2.session kept ↔ ¬ x.StruckBy .release d
  stranded : x.StruckBy .release d → d.session.Stranded (x d).2.session

theorem Dialog.hingesOnRelease {α : Type} {x : Attempt Dialog α} {kept : Prop} {d : Dialog}
    (hx : x.Mild)
    (h : (¬ x.StruckBy .release d ∧ d.session.Atomic (x d).2.session kept) ∨
      x.StruckBy .release d ∧ d.session.Stranded (x d).2.session) :
    HingesOnRelease x kept d := by
  obtain ⟨hspared, hatomic⟩ | ⟨hstruck, hstranded⟩ := h
  · exact ⟨hx d, iff_of_true hatomic hspared, fun h => absurd h hspared⟩
  · exact ⟨hx d, iff_of_false hstranded.not_atomic fun h => h hstruck, fun _ => hstranded⟩

namespace PasswordCheck

variable {s : PasscheckSettings} {r : PasswordRequest} {d : Dialog}

/-- What the caller is told of an outcome, which is logged. -/
def conclude (r : PasswordRequest) (outcome : Outcome) : Attempt Dialog Unit := do
  Dialog.onHost (.modify (·.say (outcomeLog r.user outcome)))
  match outcomeError? outcome with
  | none => pure ()
  | some e => .fail e

/-- Do what the catalog asks for. -/
def follow (s : PasscheckSettings) (r : PasswordRequest) : CatalogCheck → Attempt Dialog Unit
  | .accept _ => pure ()
  | .reject failure => .fail ⟨failure.message .passcheck ++ s.whereabouts, none⟩
  | .run procedures => Dialog.runIsolated procedures (.passcheck r) >>= conclude r

theorem check_eq_follow (s : PasscheckSettings) (r : PasswordRequest) :
    check s r = Dialog.evaluate .passcheck s.mode >>= follow s r := by
  unfold check
  congr 1

theorem aloof_conclude (r : PasswordRequest) (o : Outcome) : (conclude r o).Aloof := by
  have hsay : (modify fun h : Host => h.say (outcomeLog r.user o)).Aloof :=
    aloof_modify (fun _ => rfl) fun _ => rfl
  refine (hsay.onPart Dialog.holdsPlan_host).bind fun _ => ?_
  split
  · exact aloof_pure _
  · exact Attempt.aloof_conclude _

/-- A check panics only where a fault does that is planned outside of its procedures. -/
theorem tame_check (s : PasscheckSettings) (r : PasswordRequest) : (check s r).Tame := by
  rw [check_eq_follow]
  refine (Dialog.orderly_evaluate .passcheck s.mode).tame.bind fun asked => ?_
  cases asked with
  | accept reason => exact (orderly_pure ()).tame
  | reject failure =>
    refine ((Attempt.aloof_conclude _).orderly fun d p => ?_).tame
    rintro ⟨⟩
  | run procedures =>
    refine (Dialog.tame_runIsolated procedures (.passcheck r)).bind fun o => ?_
    refine ((aloof_conclude r o).orderly fun d p => ?_).tame
    cases o <;> rintro ⟨⟩

theorem conclude_session (r : PasswordRequest) (o : Outcome) :
    (conclude r o).Keeps Dialog.session := by
  refine Keeps.bind (fun _ => rfl) fun _ => ?_
  split
  · exact keeps_pure _
  · exact keeps_conclude _

/-- The check accepted the password, or a procedure gave a reason to reject it. -/
def Heard (s : PasscheckSettings) (r : PasswordRequest) (d : Dialog) : Prop :=
  (check s r d).1 = .done () ∨ ∃ reason : String, outcome? s r d = some (.rejected reason)

/-- A check whose procedures are heard is heard. -/
theorem heard_of_run {procedures : List QualifiedName} {d' : Dialog} {o : Outcome}
    (hasked : Dialog.evaluate .passcheck s.mode d = (.done (.run procedures), d'))
    (hdone : (Dialog.runIsolated procedures (.passcheck r) d').1 = .done o) (ho : o.Heard) :
    Heard s r d := by
  cases o with
  | raised e => exact ho.elim
  | rejected reason =>
    refine .inr ⟨reason, ?_⟩
    simp only [outcome?, hasked, hdone, Ending.value?]
  | accepted =>
    have hrun : Dialog.runIsolated procedures (.passcheck r) d' = (.done .accepted, _) :=
      Prod.ext hdone rfl
    refine .inl ?_
    rw [check_eq_follow, bind_of_done hasked, follow, bind_of_done hrun]
    rfl

/-- A check that leaves what a look at the catalog leaves is atomic. -/
theorem atomic_of_look (s : PasscheckSettings) (r : PasswordRequest) (ending : Ending Unit)
    (hcheck : check s r d = (ending, (Dialog.evaluate .passcheck s.mode d).2)) :
    ¬ (check s r).StruckBy .release d ∧ d.session.Atomic (check s r d).2.session (Heard s r d) := by
  have hevaluate : ¬ (Dialog.evaluate .passcheck s.mode).StruckBy .release d :=
    (Dialog.evades_evaluate (fun _ => rfl) (fun _ => rfl) _ _).not_struckBy d
  obtain ⟨hsession, -⟩ := Dialog.looks_evaluate .passcheck s.mode d
  rw [StruckBy, hcheck, hsession]
  exact ⟨hevaluate, .refl _ _⟩

/-- A check is atomic, unless a fault strikes its release. -/
theorem atomic_or_stranded_check (s : PasscheckSettings) (r : PasswordRequest)
    (hopen : d.session.layers ≠ []) :
    (¬ (check s r).StruckBy .release d ∧ d.session.Atomic (check s r d).2.session (Heard s r d)) ∨
      (check s r).StruckBy .release d ∧ d.session.Stranded (check s r d).2.session := by
  have hlook := atomic_of_look (d := d) s r
  obtain ⟨hsession, -⟩ := Dialog.looks_evaluate .passcheck s.mode d
  rw [check_eq_follow] at hlook ⊢
  obtain ⟨ending, d', hasked⟩ : ∃ (ending : Ending CatalogCheck) (d' : Dialog),
      Dialog.evaluate .passcheck s.mode d = (ending, d') := ⟨_, _, rfl⟩
  rw [hasked] at hlook hsession
  cases ending with
  | failed e => exact .inl (hlook (.failed e) (by rw [bind_apply, hasked]))
  | unwound p => exact .inl (hlook (.unwound p) (by rw [bind_apply, hasked]))
  | done asked =>
    have hnext := bind_of_done (f := follow s r) hasked
    cases asked with
    | accept reason => exact .inl (hlook _ hnext)
    | reject failure => exact .inl (hlook _ hnext)
    | run procedures =>
      have hevaluate : (Dialog.evaluate .passcheck s.mode).Evades .release :=
        Dialog.evades_evaluate (fun _ => rfl) (fun _ => rfl) _ _
      have hrun := Dialog.atomic_or_stranded_runIsolated procedures (.passcheck r)
        (d := d') (by rw [hsession]; exact hopen)
      rw [struckBy_bind_of_done hevaluate hasked, hnext, follow,
        struckBy_bind_iff fun o => (aloof_conclude r o).evades _,
        Keeps.after_bind (conclude_session r), ← hsession]
      refine hrun.imp (fun h => ⟨h.1, h.2.mono fun hheard => ?_⟩) id
      obtain ⟨o, hdone, ho⟩ := hheard
      exact heard_of_run hasked hdone ho

/-- Procedures run in isolation in an open transaction, and a check of a password in it:
unless a fault strikes the release, the session is as deep as before, with the same pending
writes if nobody was heard.  A fault that strikes the release leaves one level more open. -/
theorem hinges_on_release (hopen : d.session.layers ≠ []) :
    (∀ (procedures : List QualifiedName) (args : Args),
      Dialog.HingesOnRelease (Dialog.runIsolated procedures args)
        (∃ o : Outcome, (Dialog.runIsolated procedures args d).1 = .done o ∧ o.Heard) d) ∧
      ∀ (s : PasscheckSettings) (r : PasswordRequest),
        Dialog.HingesOnRelease (check s r) (Heard s r d) d :=
  ⟨fun procedures args => Dialog.hingesOnRelease (Dialog.tame_runIsolated procedures args).mild
      (Dialog.atomic_or_stranded_runIsolated procedures args hopen),
    fun s r => Dialog.hingesOnRelease (tame_check s r).mild (atomic_or_stranded_check s r hopen)⟩

end PasswordCheck

/-! ## A procedure that writes -/

/-- It notes that it was called. -/
def note : Procedure :=
  fun _ => .put "seen" "yes" fun _ => .finish (.done .void)

/-- A catalog in which passwords are checked by noting that they are. -/
def notingCatalog : Catalog :=
  ⟨⟨[("postgres",
    { catalogInstalled := true
      procedures := ⟨[(("public", "note"), note)]⟩
      registrations := [⟨.passcheck, "public", "note"⟩] })]⟩⟩

/-- A transaction in which nothing is written, and the next call of a point fails. -/
def noting (point : FaultPoint) : Dialog where
  session := ⟨"postgres", [[]]⟩
  host :=
    { processes := ⟨1, []⟩
      catalog := notingCatalog
      faults := .failing point "injected" 1 }

theorem public_named : NamePart.Present "public" ∧ NamePart.Safe "public" := by
  decide +kernel

theorem note_named : NamePart.Present "note" ∧ NamePart.Safe "note" := by
  decide +kernel

/-- The name of the procedure that notes. -/
def noteName : QualifiedName :=
  ⟨"public", "note", public_named, note_named⟩

namespace Dialog

/-- The run of the procedure for bob. -/
def noted : Attempt Dialog Outcome :=
  runIsolated [noteName] (.clientauth { user := "bob" } 0)

/-- A call that fails leaves the transaction as it was, and a release that fails leaves it
two levels deep. -/
theorem noted_run :
    ¬ noted.StruckBy .release (noting .call) ∧
      noted.StruckBy .release (noting .releaseSub) ∧
      (noted (noting .releaseSub)).2.session.depth = 2 := by
  decide +kernel

end Dialog

/-- Where the call fails, bob's transaction has one level with nothing written in it; where
the release does, there is one level more. -/
theorem PasswordCheck.hinges_on_release_noting :
    (noting .call).session.Atomic (Dialog.noted (noting .call)).2.session
        (∃ o : Outcome, (Dialog.noted (noting .call)).1 = .done o ∧ o.Heard) ∧
      (noting .releaseSub).session.Stranded (Dialog.noted (noting .releaseSub)).2.session := by
  obtain ⟨hspared, hstruck, -⟩ := Dialog.noted_run
  have hopen (point : FaultPoint) : (noting point).session.layers ≠ [] := List.cons_ne_nil _ _
  exact ⟨((hinges_on_release (hopen .call)).1 _ _).atomic_iff.mpr hspared,
    ((hinges_on_release (hopen .releaseSub)).1 _ _).stranded hstruck⟩

/-- A run in isolation is not atomic on every error. -/
theorem Dialog.runIsolated_strands :
    ¬ ∀ (d : Dialog) (procedures : List QualifiedName) (args : Args),
      d.session.layers ≠ [] → d.host.faults.ErrorsOnly →
        d.session.Atomic (runIsolated procedures args d).2.session
          (∃ o : Outcome, (runIsolated procedures args d).1 = .done o ∧ o.Heard) := by
  intro hatomic
  obtain ⟨-, -, hdepth⟩ := noted_run
  have hkept := (hatomic (noting .releaseSub) [noteName] (.clientauth { user := "bob" } 0)
    (List.cons_ne_nil _ _) (FaultPlan.errorsOnly_failing _ _ _)).depth_eq
  exact absurd (hkept.symm.trans hdepth) (by decide)

end Admission
