import Admission.Proofs.Procedure.Hearing

set_option autoImplicit false

/-!
# Which procedures are called

A call speaks for acceptance, gives a reason to reject, or goes wrong.  Procedures are
called in order up to the first call that does not speak for acceptance, and that call
decides; so what is called is a part in front of the list, and calling just that part
one after another, whatever the calls say, is the same.
-/

namespace Admission

open Attempt

/-- What a call speaks for. -/
def Ending.verdict : Ending Output → Outcome
  | .done o => o.objection?.elim .accepted .rejected
  | .failed e => .raised e
  | .unwound p => .raised (.ofPanic p)

theorem Ending.verdict_eq_accepted_iff {ending : Ending Output} :
    ending.verdict = .accepted ↔ ∃ o : Output, ending = .done o ∧ o.objection? = none := by
  cases ending with
  | failed e => simp [Ending.verdict]
  | unwound p => simp [Ending.verdict]
  | done o => cases hreason : o.objection? <;> simp [Ending.verdict, hreason]

/-- What the last call speaks for; with no call nobody objected. -/
def lastVerdict (endings : List (Ending Output)) : Outcome :=
  endings.getLast?.elim .accepted Ending.verdict

/-- Of a list of procedures these are called, and their calls end like this: the shortest
part in front whose last call objects or goes wrong, or the whole list if no call does. -/
structure HeardOut (procedures called : List QualifiedName) (endings : List (Ending Output)) :
    Prop where
  initial : called <+: procedures
  length_eq : endings.length = called.length
  /-- All calls but the last speak for acceptance. -/
  silent : ∀ ending ∈ endings.dropLast, ending.verdict = .accepted
  /-- Where procedures are left out, the last call does not. -/
  stopped : called ≠ procedures → lastVerdict endings ≠ .accepted

/-- Behind a call that speaks for acceptance, the other calls decide. -/
theorem lastVerdict_cons {ending : Ending Output} (h : ending.verdict = .accepted)
    (endings : List (Ending Output)) : lastVerdict (ending :: endings) = lastVerdict endings := by
  cases endings with
  | nil => exact h
  | cons next rest => simp [lastVerdict, List.getLast?_cons]

namespace HeardOut

variable {p : QualifiedName} {procedures called : List QualifiedName} {ending : Ending Output}
  {endings : List (Ending Output)}

theorem nil : HeardOut [] [] [] :=
  ⟨List.prefix_rfl, rfl, by simp, fun h => absurd rfl h⟩

/-- A call that does not speak for acceptance is the last. -/
theorem objected (h : ending.verdict ≠ .accepted) (procedures : List QualifiedName) :
    HeardOut (p :: procedures) [p] [ending] :=
  ⟨by simp, rfl, by simp, fun _ => h⟩

/-- After a call that does, the rest of the procedures is heard. -/
theorem cons (h : ending.verdict = .accepted) (hrest : HeardOut procedures called endings) :
    HeardOut (p :: procedures) (p :: called) (ending :: endings) where
  initial := by simpa using hrest.initial
  length_eq := by simp [hrest.length_eq]
  silent := by
    intro e hmem
    cases endings with
    | nil => simp at hmem
    | cons next rest =>
      rw [List.dropLast_cons_cons] at hmem
      cases hmem with
      | head => exact h
      | tail _ hmem => exact hrest.silent e hmem
  stopped := by
    intro hne
    rw [lastVerdict_cons h]
    exact hrest.stopped fun heq => hne (by rw [heq])

/-- If nobody objected, all procedures were called, and no call objected. -/
theorem all_of_accepted (h : HeardOut procedures called endings)
    (hverdict : lastVerdict endings = .accepted) :
    called = procedures ∧ ∀ ending ∈ endings, ending.verdict = .accepted := by
  refine ⟨Decidable.of_not_not fun hne => h.stopped hne hverdict, ?_⟩
  intro ending hmem
  cases hlast : endings.getLast? with
  | none => simp_all
  | some last =>
    rw [lastVerdict, hlast] at hverdict
    obtain ⟨before, rfl⟩ := List.getLast?_eq_some_iff.mp hlast
    rcases List.mem_append.mp hmem with hmem | hmem
    · exact h.silent ending (by simpa using hmem)
    · rw [List.mem_singleton.mp hmem]
      exact hverdict

end HeardOut

namespace Dialog

variable {d : Dialog} {args : Args}

/-- Call procedures one after another, whatever the calls say. -/
def callEach (args : Args) : List QualifiedName → Dialog → List (Ending Output) × Dialog
  | [], d => ([], d)
  | p :: rest, d =>
    let (ending, d) := call p args d
    let (endings, d) := callEach args rest d
    (ending :: endings, d)

theorem callEach_cons (args : Args) (p : QualifiedName) (rest : List QualifiedName) (d : Dialog) :
    callEach args (p :: rest) d =
      ((call p args d).1 :: (callEach args rest (call p args d).2).1,
        (callEach args rest (call p args d).2).2) := rfl

/-- How procedures go on that are called in order. -/
theorem callInOrder_cons (args : Args) (p : QualifiedName) (rest : List QualifiedName)
    (d : Dialog) :
    (callInOrder args (p :: rest) d).1.outcome =
        (if (call p args d).1.verdict = .accepted then
          (callInOrder args rest (call p args d).2).1.outcome
        else (call p args d).1.verdict) ∧
      (callInOrder args (p :: rest) d).2 =
        if (call p args d).1.verdict = .accepted then (callInOrder args rest (call p args d).2).2
        else (call p args d).2 := by
  rw [callInOrder, bind_apply]
  generalize call p args d = called
  obtain ⟨ending, d'⟩ := called
  cases ending with
  | failed e => simp [Ending.verdict, Ending.outcome]
  | unwound p => simp [Ending.verdict, Ending.outcome]
  | done o =>
    cases hreason : o.objection? <;>
      simp [Output.rejection?_eq, hreason, Ending.verdict, Ending.outcome]

/-- Where every call speaks for acceptance, procedures called in order are all called. -/
theorem callInOrder_of_silent {names : List QualifiedName}
    (h : ∀ ending ∈ (callEach args names d).1, ending.verdict = .accepted) :
    callInOrder args names d = (.done none, (callEach args names d).2) := by
  induction names generalizing d with
  | nil => rfl
  | cons p rest ih =>
    rw [callEach_cons] at h ⊢
    obtain ⟨o, hcall, hreason⟩ := Ending.verdict_eq_accepted_iff.mp (h _ List.mem_cons_self)
    have hrest := ih fun ending hmem => h ending (List.mem_cons_of_mem _ hmem)
    rw [callInOrder, bind_of_done (Prod.ext hcall rfl), Output.rejection?_eq, hreason]
    exact hrest

/-- Procedures called in order are heard out, and the last call decides. -/
theorem exists_heardOut (args : Args) (procedures : List QualifiedName) (d : Dialog) :
    ∃ called : List QualifiedName,
      HeardOut procedures called (callEach args called d).1 ∧
        (callInOrder args procedures d).1.outcome = lastVerdict (callEach args called d).1 ∧
        (callInOrder args procedures d).2 = (callEach args called d).2 := by
  induction procedures generalizing d with
  | nil => exact ⟨[], .nil, rfl, rfl⟩
  | cons p rest ih =>
    obtain ⟨houtcome, hleft⟩ := callInOrder_cons args p rest d
    by_cases hverdict : (call p args d).1.verdict = .accepted
    · obtain ⟨called, hheard, hrest, hafter⟩ := ih (call p args d).2
      rw [if_pos hverdict] at houtcome hleft
      refine ⟨p :: called, ?_, ?_, ?_⟩
      · exact .cons hverdict hheard
      · rw [houtcome, hrest, callEach_cons, lastVerdict_cons hverdict]
      · rw [hleft, hafter, callEach_cons]
    · rw [if_neg hverdict] at houtcome hleft
      refine ⟨[p], .objected hverdict rest, ?_, ?_⟩
      · rw [houtcome]
        rfl
      · rw [hleft]
        rfl

end Dialog

end Admission
