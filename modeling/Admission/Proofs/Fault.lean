import Admission.Host

set_option autoImplicit false

/-!
# When faults strike

A plan threatens a number of calls, and a fault that strikes makes the number smaller by
one, so whether a fault struck in a run can be read off the plans before and after it.
-/

namespace Admission

/-- How many calls some runs threaten. -/
def FaultRun.threats : List FaultRun → Nat
  | [] => 0
  | run :: rest => (if run.fault.isSome then run.times else 0) + threats rest

/-- Taking the next call off the runs takes a threat away exactly if it is one. -/
theorem FaultRun.threats_takeFirst (runs : List FaultRun) :
    threats (takeFirst runs).2 + (if (takeFirst runs).1.isSome then 1 else 0) = threats runs := by
  fun_induction takeFirst runs with
  | case1 => rfl
  | case2 fault rest ih =>
    rw [ih]
    simp [threats]
  | case3 fault times rest =>
    cases fault <;> simp [threats, Nat.add_right_comm]

/-- A fault taken off the runs, or left in them, was in them. -/
theorem FaultRun.mem_of_takeFirst (runs : List FaultRun) {fault : Fault} :
    ((takeFirst runs).1 = some fault ∨
      ∃ run ∈ (takeFirst runs).2, run.fault = some fault) →
    ∃ run ∈ runs, run.fault = some fault := by
  fun_induction takeFirst runs with
  | case1 => simp
  | case2 planned rest ih =>
    intro h
    obtain ⟨run, hmem, hfault⟩ := ih h
    exact ⟨run, List.mem_cons_of_mem _ hmem, hfault⟩
  | case3 planned times rest =>
    rintro (h | ⟨run, hmem, hfault⟩)
    · exact ⟨_, List.mem_cons_self, h⟩
    · cases hmem with
      | head => exact ⟨_, List.mem_cons_self, hfault⟩
      | tail _ hmem => exact ⟨run, List.mem_cons_of_mem _ hmem, hfault⟩

namespace FaultPlan

/-- How many calls a plan threatens. -/
def threats (plan : FaultPlan) : Nat :=
  FaultPoint.all.foldr (fun p n => FaultRun.threats (plan.upcoming p) + n) 0

/-- A call takes a threat away exactly if a fault strikes it. -/
theorem threats_next (plan : FaultPlan) (point : FaultPoint) :
    (plan.next point).2.threats + (if (plan.next point).1.isSome then 1 else 0) =
      plan.threats := by
  have h := FaultRun.threats_takeFirst (plan.upcoming point)
  unfold next
  generalize FaultRun.takeFirst (plan.upcoming point) = taken at h
  obtain ⟨fault, rest⟩ := taken
  -- The sum runs over all points, of which the call changes one.
  cases fault <;> cases point <;> simp [set, threats, FaultPoint.all] at h ⊢ <;> omega

/-- A plan that says nothing about any point is no plan. -/
theorem eq_none {plan : FaultPlan} (h : ∀ point ∈ FaultPoint.all, plan.upcoming point = []) :
    plan = .none :=
  congrArg FaultPlan.mk <| funext fun point => h point (by cases point <;> decide)

/-- Nothing strikes where nothing is planned. -/
@[simp] theorem next_none (point : FaultPoint) : FaultPlan.none.next point = (.none, .none) := by
  have hset : FaultPlan.none.set point [] = .none := by
    simp only [none, set, ite_self]
  simp only [next, FaultRun.takeFirst, none] at hset ⊢
  rw [hset]

/-- The plan has this fault for some call of the point. -/
def Holds (plan : FaultPlan) (point : FaultPoint) (fault : Fault) : Prop :=
  ∃ run ∈ plan.upcoming point, run.fault = some fault

/-- All planned faults are errors. -/
def ErrorsOnly (plan : FaultPlan) : Prop :=
  ∀ (point : FaultPoint) (message : String), ¬ plan.Holds point (.panic message)

/-- `after` has no fault that `before` does not have. -/
def Narrows (before after : FaultPlan) : Prop :=
  ∀ (point : FaultPoint) (fault : Fault), after.Holds point fault → before.Holds point fault

theorem Narrows.trans {a b c : FaultPlan} (h₁ : Narrows a b) (h₂ : Narrows b c) : Narrows a c :=
  fun point fault h => h₁ point fault (h₂ point fault h)

theorem Narrows.errorsOnly {a b : FaultPlan} (h : Narrows a b) (ha : a.ErrorsOnly) :
    b.ErrorsOnly :=
  fun point message hb => ha point message (h point _ hb)

/-- A fault that strikes was planned. -/
theorem holds_of_next {plan : FaultPlan} {point : FaultPoint} {fault : Fault}
    (h : (plan.next point).1 = some fault) : plan.Holds point fault :=
  FaultRun.mem_of_takeFirst _ (.inl h)

theorem narrows_next (plan : FaultPlan) (point : FaultPoint) :
    Narrows plan (plan.next point).2 := by
  rintro other fault ⟨run, hmem, hfault⟩
  simp only [next, set] at hmem
  split at hmem
  · rename_i h
    exact h ▸ FaultRun.mem_of_takeFirst _ (.inr ⟨run, hmem, hfault⟩)
  · exact ⟨run, hmem, hfault⟩

/-- The next calls of one point fail with an error, and no others. -/
def failing (point : FaultPoint) (message : String) (times : Nat) : FaultPlan :=
  .set .none point [⟨some (.error message), times⟩]

theorem errorsOnly_failing (point : FaultPoint) (message : String) (times : Nat) :
    (failing point message times).ErrorsOnly := by
  intro other text hholds
  obtain ⟨run, hmem, hfault⟩ := hholds
  simp only [failing, set] at hmem
  split at hmem
  · obtain rfl := List.mem_singleton.mp hmem
    cases hfault
  · cases hmem

end FaultPlan

/-! ## Calls -/

/-- A call that no fault is planned for goes through. -/
theorem Host.strike_of_unplanned {h : Host} (hf : h.faults = .none) (point : FaultPoint) :
    strike point h = (.done (), h) := by
  cases h
  subst hf
  simp [strike]

end Admission
