import Admission.Proofs.Keeps
import Admission.Proofs.Procedure.Candid

set_option autoImplicit false

/-!
# Faults of a sort

Which calls a fault struck matters as much as that one did: a release that fails leaves
its level open, and a panic is caught inside procedures and nowhere else.  So the faults
of a plan are sorted by the call they threaten and by what they do there, and those of
one sort are counted alone.
-/

namespace Admission

/-- A sort of faults: which faults of which calls are of it. -/
abbrev FaultSort : Type := FaultPoint → Fault → Bool

/-- The call is one of a procedure, or one that a procedure makes. -/
def FaultPoint.isProcedural : FaultPoint → Bool
  | .call | .databaseExists => true
  | .connect | .begin | .commit | .beginSub | .releaseSub | .catalogInstalled
  | .featureEntries => false

namespace FaultSort

/-- All faults of the calls of one point. -/
def ofPoint (point : FaultPoint) : FaultSort :=
  fun p _ => p = point

/-- All faults of releases. -/
abbrev release : FaultSort :=
  ofPoint .releaseSub

/-- All faults of commits. -/
abbrev commit : FaultSort :=
  ofPoint .commit

/-- The panics of the calls that are made outside of procedures. -/
def crash : FaultSort
  | point, .panic _ => !point.isProcedural
  | _, .error _ => false

/-- The panics of the calls of procedures. -/
def panickingCall : FaultSort
  | .call, .panic _ => true
  | _, _ => false

/-- The faults that are not of the sort. -/
def others (sort : FaultSort) : FaultSort :=
  fun point fault => !sort point fault

end FaultSort

/-! ## Counting -/

/-- How many calls some runs threaten with faults like these. -/
def FaultRun.threatsBy (like : Fault → Bool) : List FaultRun → Nat
  | [] => 0
  | run :: rest => (if run.fault.any like then run.times else 0) + threatsBy like rest

/-- Taking the next call off the runs takes a threat away exactly if it is one of these. -/
theorem FaultRun.threatsBy_takeFirst (like : Fault → Bool) (runs : List FaultRun) :
    threatsBy like (takeFirst runs).2 + (if (takeFirst runs).1.any like then 1 else 0) =
      threatsBy like runs := by
  fun_induction takeFirst runs with
  | case1 => rfl
  | case2 fault rest ih =>
    rw [ih]
    simp [threatsBy]
  | case3 fault times rest =>
    simp only [threatsBy]
    split <;> omega

namespace FaultPlan

/-- How many calls a plan threatens with faults of the sort. -/
def threatsBy (sort : FaultSort) (plan : FaultPlan) : Nat :=
  FaultPoint.all.foldr (fun p n => FaultRun.threatsBy (sort p) (plan.upcoming p) + n) 0

/-- A call takes a threat away exactly if a fault of the sort strikes it. -/
theorem threatsBy_next (sort : FaultSort) (plan : FaultPlan) (point : FaultPoint) :
    (plan.next point).2.threatsBy sort +
        (if (plan.next point).1.any (sort point) then 1 else 0) = plan.threatsBy sort := by
  have h := FaultRun.threatsBy_takeFirst (sort point) (plan.upcoming point)
  unfold next
  generalize FaultRun.takeFirst (plan.upcoming point) = taken at h
  obtain ⟨fault, rest⟩ := taken
  -- The sum runs over all points, of which the call changes one.
  cases point <;> simp [set, threatsBy, FaultPoint.all] at h ⊢ <;> omega

/-- What is planned for calls that have no fault of the sort makes no difference. -/
theorem threatsBy_congr {sort : FaultSort} {before after : FaultPlan}
    (h : ∀ point : FaultPoint, (∃ fault : Fault, sort point fault = true) →
      after.upcoming point = before.upcoming point) :
    after.threatsBy sort = before.threatsBy sort := by
  have hpoint (point : FaultPoint) :
      FaultRun.threatsBy (sort point) (after.upcoming point) =
        FaultRun.threatsBy (sort point) (before.upcoming point) := by
    by_cases hsort : ∃ fault : Fault, sort point fault = true
    · rw [h point hsort]
    · have hnever : sort point = fun _ => false := by
        funext fault
        exact Bool.eq_false_iff.mpr fun hfault => hsort ⟨fault, hfault⟩
      have hzero (runs : List FaultRun) : FaultRun.threatsBy (fun _ => false) runs = 0 := by
        induction runs with
        | nil => rfl
        | cons run rest ih => simp [FaultRun.threatsBy, ih]
      rw [hnever, hzero, hzero]
  unfold threatsBy
  simp only [hpoint]

/-- Each threat is of a sort or is not. -/
theorem threats_eq_add (sort : FaultSort) (plan : FaultPlan) :
    plan.threats = plan.threatsBy sort + plan.threatsBy sort.others := by
  have hruns (point : FaultPoint) (runs : List FaultRun) : FaultRun.threats runs =
      FaultRun.threatsBy (sort point) runs +
        FaultRun.threatsBy (sort.others point) runs := by
    induction runs with
    | nil => rfl
    | cons run rest ih =>
      simp only [FaultRun.threats, FaultRun.threatsBy, ih]
      cases run.fault with
      | none => simp
      | some fault => cases hsort : sort point fault <;> simp [FaultSort.others, hsort] <;> omega
  unfold threats threatsBy
  induction FaultPoint.all with
  | nil => rfl
  | cons point rest ih =>
    have hpoint := hruns point (plan.upcoming point)
    simp only [List.foldr_cons]
    omega

end FaultPlan

open Exposed

/-- How many calls the plan of a state threatens with faults of the sort. -/
def Exposed.threatsBy {σ : Type} [Exposed σ] (sort : FaultSort) (s : σ) : Nat :=
  (faults s).threatsBy sort

namespace Attempt

variable {σ τ α β : Type} [Exposed σ] [Exposed τ] {sort : FaultSort} {x : Attempt σ α}
  {f : α → Attempt σ β} {s : σ}

/-- A planned fault of the sort strikes the attempt. -/
def StruckBy (sort : FaultSort) (x : Attempt σ α) (s : σ) : Prop :=
  threatsBy sort (x s).2 < threatsBy sort s

instance (sort : FaultSort) (x : Attempt σ α) (s : σ) : Decidable (x.StruckBy sort s) :=
  inferInstanceAs (Decidable (threatsBy sort (x s).2 < threatsBy sort s))

/-- No fault of the sort can strike the attempt. -/
abbrev Evades (sort : FaultSort) (x : Attempt σ α) : Prop :=
  x.Keeps (threatsBy sort)

theorem Keeps.not_struckBy (h : x.Evades sort) (s : σ) : ¬ x.StruckBy sort s := by
  rw [StruckBy, h s]
  exact Nat.lt_irrefl _

/-- An attempt that keeps what is planned for the calls of the sort evades it. -/
theorem evades_of_upcoming
    (h : ∀ (s : σ) (point : FaultPoint), (∃ fault : Fault, sort point fault = true) →
      (faults (x s).2).upcoming point = (faults s).upcoming point) : x.Evades sort :=
  fun s => FaultPlan.threatsBy_congr (h s)

theorem Aloof.evades (hx : x.Aloof) (sort : FaultSort) : x.Evades sort :=
  fun s => congrArg (FaultPlan.threatsBy sort) (hx.faults_eq s)

/-- A step that may refuse, and otherwise leaves the plan alone. -/
theorem evades_ofExcept {y : σ → Except BackendError β} {f : σ → β → α × σ}
    (hf : ∀ (s : σ) (b : β), faults (f s b).2 = faults s) :
    (ofExcept fun s => (y s).map (f s)).Evades sort := by
  intro s
  rw [ofExcept]
  cases y s with
  | error e => rfl
  | ok b => exact congrArg (FaultPlan.threatsBy sort) (hf s b)

/-- After a part that evades the sort, what follows decides whether it strikes. -/
theorem struckBy_bind_of_done (hx : x.Evades sort) {a : α} {s' : σ} (h : x s = (.done a, s')) :
    (x >>= f).StruckBy sort s ↔ (f a).StruckBy sort s' := by
  have hkept := hx s
  rw [h] at hkept
  rw [StruckBy, StruckBy, bind_of_done h, hkept]

theorem exists_of_struckBy_bind (hx : x.Evades sort) (h : (x >>= f).StruckBy sort s) :
    ∃ (a : α) (s' : σ), x s = (.done a, s') ∧ (f a).StruckBy sort s' := by
  have hkept := hx s
  rw [StruckBy, bind_apply] at h
  generalize x s = result at h hkept
  obtain ⟨ending, s'⟩ := result
  cases ending with
  | failed e => exact absurd h (Nat.not_lt_of_le (Nat.le_of_eq hkept.symm))
  | unwound p => exact absurd h (Nat.not_lt_of_le (Nat.le_of_eq hkept.symm))
  | done a =>
    refine ⟨a, s', rfl, ?_⟩
    rw [StruckBy, hkept]
    exact h

/-- Before a part that evades the sort, what comes first decides whether it strikes. -/
theorem struckBy_bind_iff (hf : ∀ a : α, (f a).Evades sort) :
    (x >>= f).StruckBy sort s ↔ x.StruckBy sort s := by
  rw [StruckBy, StruckBy, Keeps.after_bind hf]

theorem Keeps.onPart {get : τ → σ} {set : τ → σ → τ} (hp : HoldsPlan get set)
    (h : x.Evades sort) : (Attempt.onPart get set x).Evades sort := by
  intro t
  have hkept := h (get t)
  rw [threatsBy, threatsBy, hp.faults_get] at hkept
  rw [threatsBy, threatsBy, onPart_apply, hp.faults_set, hkept]

theorem struckBy_onPart_iff {get : τ → σ} {set : τ → σ → τ} (hp : HoldsPlan get set) (t : τ) :
    (Attempt.onPart get set x).StruckBy sort t ↔ x.StruckBy sort (get t) := by
  simp only [StruckBy, threatsBy, onPart_apply, hp.faults_set, hp.faults_get]

end Attempt

/-! ## Calls -/

namespace Host

open Attempt

/-- A fault of the sort strikes a call exactly if the next one planned for it is of it. -/
theorem struckBy_strike_iff {sort : FaultSort} {point : FaultPoint} {h : Host} :
    (strike point).StruckBy sort h ↔
      ∃ fault : Fault, (h.faults.next point).1 = some fault ∧ sort point fault = true := by
  have hthreats := h.faults.threatsBy_next sort point
  have hstruck : (strike point).StruckBy sort h ↔
      (h.faults.next point).2.threatsBy sort < h.faults.threatsBy sort := Iff.rfl
  rw [hstruck, ← hthreats]
  cases (h.faults.next point).1 with
  | none => simp
  | some fault => by_cases hsort : sort point fault = true <;> simp [hsort]

theorem threatsBy_strike_le (sort : FaultSort) (point : FaultPoint) (h : Host) :
    threatsBy sort (strike point h).2 ≤ threatsBy sort h := by
  have hthreats : threatsBy sort (strike point h).2 + _ = threatsBy sort h :=
    h.faults.threatsBy_next sort point
  exact hthreats ▸ Nat.le_add_right _ _

/-- A call of another point evades the sort. -/
theorem evades_strike {sort : FaultSort} {point : FaultPoint}
    (h : ∀ fault : Fault, sort point fault = false) : (strike point).Evades sort := by
  refine evades_of_upcoming fun host other hother => ?_
  obtain ⟨fault, hfault⟩ := hother
  refine upcoming_strike_of_ne ?_ host
  intro hpoint
  rw [hpoint, h fault] at hfault
  cases hfault

theorem evades_databaseExists {sort : FaultSort}
    (h : ∀ fault : Fault, sort .databaseExists fault = false) (name : String) :
    (databaseExists name).Evades sort :=
  Keeps.bind (evades_strike h) fun _ => keeps_gets _

theorem evades_connect {sort : FaultSort}
    (h : ∀ fault : Fault, sort .connect fault = false) (database : String) :
    (connect database).Evades sort :=
  Keeps.bind (evades_strike h) fun _ => evades_ofExcept fun _ _ => rfl

end Host

end Admission
