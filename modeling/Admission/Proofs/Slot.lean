import Admission.Proofs.Connection
import Admission.Slot.Basic

set_option autoImplicit false

/-!
# The steps of a slot

When a claim is granted and what it leaves, what a look for the verdict finds, and
when an answer is taken.
-/

namespace Admission.Slot

variable {s : Slot} {ps : Processes} {pid : Pid} {c : Connection} {status : Int32}

/-! ## Claims -/

theorem heldByDead_iff :
    s.heldByDead ps = true ↔ s.available = false ∧ ps.isAlive s.owner = false := by
  simp [heldByDead]

theorem isIdle_iff : s.isIdle = true ↔ s.available = true ∧ s.done = true := by
  simp [isIdle]

@[simp] theorem reclaim_done : (s.reclaim ps).done = s.done := by
  unfold reclaim
  split <;> rfl

theorem reclaim_available :
    (s.reclaim ps).available = true ↔ s.available = true ∨ ps.isAlive s.owner = false := by
  unfold reclaim
  split
  · rename_i h
    simp [(heldByDead_iff.mp h).2]
  · rename_i h
    rw [heldByDead_iff] at h
    cases ha : s.available <;> simp_all

/-- A reclaim changes nothing but the flag. -/
theorem reclaim_eq (s : Slot) (ps : Processes) :
    s.reclaim ps = { s with available := (s.reclaim ps).available } := by
  unfold reclaim
  split <;> rfl

/-- After a reclaim no process that is gone holds the slot. -/
@[simp] theorem heldByDead_reclaim : (s.reclaim ps).heldByDead ps = false := by
  unfold reclaim
  split
  · rfl
  · next h => exact Bool.eq_false_iff.mpr h

/-- What is refused once is refused again, and by then there is nothing to reclaim. -/
theorem claim_reclaim (h : (s.claim ps pid c status).2 = false) :
    (s.reclaim ps).claim ps pid c status = (s.reclaim ps, false) := by
  have hagain : (s.reclaim ps).reclaim ps = s.reclaim ps := by
    rw [reclaim, heldByDead_reclaim]
    rfl
  simp only [claim, hagain] at h ⊢
  split at h
  · cases h
  · next hidle => rw [if_neg hidle]

/-- A claim is granted when the last request was answered and nobody who runs
still holds the slot. -/
theorem claim_granted_iff :
    (s.claim ps pid c status).2 = true ↔
      s.done = true ∧ (s.available = true ∨ ps.isAlive s.owner = false) := by
  have hidle : (s.reclaim ps).isIdle = true ↔
      s.done = true ∧ (s.available = true ∨ ps.isAlive s.owner = false) := by
    rw [isIdle_iff, reclaim_available, reclaim_done, and_comm]
  rw [← hidle]
  simp only [claim]
  split
  · rename_i h
    simp [h]
  · rename_i h
    simp [h]

theorem claim_of_granted (h : (s.claim ps pid c status).2 = true) :
    (s.claim ps pid c status).1 = (s.reclaim ps).publishRequest pid c status := by
  simp only [claim] at h ⊢
  split
  · rfl
  · rename_i hidle
    simp [hidle] at h

theorem claim_of_refused (h : (s.claim ps pid c status).2 = false) :
    (s.claim ps pid c status).1 = s.reclaim ps := by
  simp only [claim] at h ⊢
  split
  · rename_i hidle
    simp [hidle] at h
  · rfl

section Publish

variable (s pid c status)

@[simp] theorem publishRequest_owner : (s.publishRequest pid c status).owner = pid := rfl

@[simp] theorem publishRequest_status : (s.publishRequest pid c status).status = status := rfl

@[simp] theorem publishRequest_available : (s.publishRequest pid c status).available = false := rfl

@[simp] theorem publishRequest_done : (s.publishRequest pid c status).done = false := rfl

@[simp] theorem publishRequest_generation :
    (s.publishRequest pid c status).generation = s.generation + 1 := rfl

@[simp] theorem publishRequest_load : (s.publishRequest pid c status).connection.load = c.cut :=
  SharedConnection.load_store s.connection c

end Publish

/-! ## Verdicts -/

theorem collect_of_done (h : s.done = true) :
    s.collect = ({ s with available := true }, some s.result?) := by
  rw [collect, if_pos h]

theorem collect_of_pending (h : s.done = false) : s.collect = (s, none) := by
  rw [collect, h]
  rfl

theorem abandon_of_owner (h : s.owner = pid) : s.abandon pid = { s with available := true } := by
  rw [abandon, if_pos h]

theorem abandon_of_ne (h : s.owner ≠ pid) : s.abandon pid = s := by
  rw [abandon, if_neg h]

/-- Giving up changes a slot only if the process owns it and nobody gave it back. -/
theorem abandon_eq_self_iff : s.abandon pid = s ↔ s.available = true ∨ s.owner ≠ pid := by
  by_cases howner : s.owner = pid
  · rw [abandon_of_owner howner]
    constructor
    · intro heq
      exact .inl (congrArg available heq).symm
    · rintro (hflag | hne)
      · rw [← hflag]
      · exact absurd howner hne
  · simp [abandon_of_ne howner, howner]

/-- An answer is taken by the very claim it was copied from, once. -/
theorem answer?_eq_some_iff {r : Request} {rejection : Option String} {s' : Slot} :
    s.answer? r rejection = some s' ↔
      s.generation = r.generation ∧ s.done = false ∧
        s' = { s.setResult rejection with done := true } := by
  unfold answer?
  split
  · rename_i h
    constructor
    · nofun
    · rintro ⟨hg, hd, -⟩
      rcases h with h | h
      · exact absurd hg h
      · rw [hd] at h
        exact absurd h (by decide)
  · rename_i h
    rw [not_or, Classical.not_not, Bool.not_eq_true] at h
    constructor
    · intro hs
      exact ⟨h.1, h.2, (Option.some.inj hs).symm⟩
    · rintro ⟨-, -, rfl⟩
      rfl

section SetResult

variable (s) (rejection : Option String)

@[simp] theorem setResult_generation : (s.setResult rejection).generation = s.generation := by
  cases rejection <;> rfl

@[simp] theorem setResult_owner : (s.setResult rejection).owner = s.owner := by
  cases rejection <;> rfl

@[simp] theorem setResult_connection : (s.setResult rejection).connection = s.connection := by
  cases rejection <;> rfl

@[simp] theorem setResult_status : (s.setResult rejection).status = s.status := by
  cases rejection <;> rfl

@[simp] theorem setResult_available : (s.setResult rejection).available = s.available := by
  cases rejection <;> rfl

end SetResult

/-- The text of a rejection as a slot keeps it. -/
def kept (rejection : Option String) : Option String :=
  rejection.map (FixedString.cut errorMessageCapacity)

/-- An answer reads back as it was given, cut to its capacity. -/
theorem result?_setResult (s : Slot) (rejection : Option String) :
    (s.setResult rejection).result? = kept rejection := by
  cases rejection with
  | none => rfl
  | some reason => simp [setResult, result?, kept]

/-- An answered slot holds no rejection exactly if none was given. -/
theorem result?_eq_none_iff (s : Slot) (rejection : Option String) :
    { s.setResult rejection with done := true }.result? = none ↔ rejection = none := by
  have hresult := s.result?_setResult rejection
  replace hresult : { s.setResult rejection with done := true }.result? = kept rejection := hresult
  rw [hresult, kept, Option.map_eq_none_iff]

end Admission.Slot
