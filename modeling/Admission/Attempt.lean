import Admission.Procedure.Error

set_option autoImplicit false

/-!
# Attempts

An attempt acts on a state and ends in one of three ways: it is done, it fails
with an error of the database session, or it unwinds because somebody panicked.
However it ends, what it did to the state before stays done.
-/

namespace Admission

/-- What a panic carries. -/
inductive PanicPayload where
  | text (message : String)
  /-- A value that is no text. -/
  | other
  deriving DecidableEq, Repr, Inhabited

/-- The text that a panic is described with. -/
def PanicPayload.detail : PanicPayload → String
  | .text message => message
  | .other => "unknown cause"

/-- How an attempt ends. -/
inductive Ending (α : Type) where
  | done (value : α)
  | failed (error : BackendError)
  | unwound (payload : PanicPayload)
  deriving Repr

instance {α : Type} : Inhabited (Ending α) := ⟨.unwound .other⟩

/-- An action on a state that may fail or unwind. -/
def Attempt (σ α : Type) : Type :=
  σ → Ending α × σ

namespace Attempt

variable {σ τ α β : Type}

/-- Carry out an attempt. -/
def run (x : Attempt σ α) (s : σ) : Ending α × σ :=
  x s

/-- End with a value. -/
protected def pure (a : α) : Attempt σ α :=
  fun s => (.done a, s)

/-- Go on with the value of an attempt, if it has one. -/
protected def bind (x : Attempt σ α) (f : α → Attempt σ β) : Attempt σ β :=
  fun s =>
    match x s with
    | (.done a, s) => f a s
    | (.failed e, s) => (.failed e, s)
    | (.unwound p, s) => (.unwound p, s)

instance : Monad (Attempt σ) where
  pure := Attempt.pure
  bind := Attempt.bind

/-- End as told. -/
def conclude (e : Ending α) : Attempt σ α :=
  fun s => (e, s)

/-- Fail. -/
def fail (e : BackendError) : Attempt σ α :=
  conclude (.failed e)

/-- Panic. -/
def unwind (p : PanicPayload) : Attempt σ α :=
  conclude (.unwound p)

/-- Read something off the state. -/
def gets (f : σ → α) : Attempt σ α :=
  fun s => (.done (f s), s)

/-- Change the state. -/
def modify (f : σ → σ) : Attempt σ Unit :=
  fun s => (.done (), f s)

/-- A step that may refuse and then leaves the state alone. -/
def ofExcept (f : σ → Except BackendError (α × σ)) : Attempt σ α :=
  fun s =>
    match f s with
    | .error e => (.failed e, s)
    | .ok (a, s) => (.done a, s)

/-- Carry out an attempt and look at how it ended. -/
def observe (x : Attempt σ α) : Attempt σ (Ending α) :=
  fun s => (.done (x s).1, (x s).2)

/-- Carry out an attempt and look at its error; a panic goes on. -/
def settle (x : Attempt σ α) : Attempt σ (Except BackendError α) :=
  fun s =>
    match x s with
    | (.done a, s) => (.done (.ok a), s)
    | (.failed e, s) => (.done (.error e), s)
    | (.unwound p, s) => (.unwound p, s)

/-- Carry out an attempt with another error in place of its own. -/
def mapError (f : BackendError → BackendError) (x : Attempt σ α) : Attempt σ α :=
  fun s =>
    match x s with
    | (.failed e, s) => (.failed (f e), s)
    | (e, s) => (e, s)

/-- Do something between an opening and a closing step.  What fails or panics in
between is followed by an undoing step instead of the closing one. -/
def bracket (opening closing undoing : Attempt σ Unit) (body : Attempt σ α) : Attempt σ α := do
  opening
  match ← body.observe with
  | .done a => do
    closing
    pure a
  | ending => do
    undoing
    conclude ending

/-- Carry out an attempt on a part of a larger state. -/
def onPart (get : τ → σ) (set : τ → σ → τ) (x : Attempt σ α) : Attempt τ α :=
  fun t => ((x (get t)).1, set t (x (get t)).2)

/-! ## What carrying out comes to -/

@[simp] theorem pure_apply (a : α) (s : σ) : (pure a : Attempt σ α) s = (.done a, s) := rfl

theorem bind_apply (x : Attempt σ α) (f : α → Attempt σ β) (s : σ) :
    (x >>= f) s =
      match x s with
      | (.done a, s) => f a s
      | (.failed e, s) => (.failed e, s)
      | (.unwound p, s) => (.unwound p, s) := rfl

/-- After a first part that ends with a value, the second part decides. -/
theorem bind_of_done {x : Attempt σ α} {f : α → Attempt σ β} {s s' : σ} {a : α}
    (h : x s = (.done a, s')) : (x >>= f) s = f a s' := by
  rw [bind_apply, h]

/-- After a first part that is not done, nothing more happens, and the whole is not done. -/
theorem bind_of_not_done {x : Attempt σ α} {f : α → Attempt σ β} {s s' : σ} {ending : Ending α}
    (h : x s = (ending, s')) (hending : ∀ a : α, ending ≠ .done a) :
    ∃ ending' : Ending β, (x >>= f) s = (ending', s') ∧ ∀ b : β, ending' ≠ .done b := by
  rw [bind_apply, h]
  cases ending with
  | done a => exact absurd rfl (hending a)
  | failed e => exact ⟨.failed e, rfl, by rintro _ ⟨⟩⟩
  | unwound p => exact ⟨.unwound p, rfl, by rintro _ ⟨⟩⟩

/-- Two parts that leave the state in a transitive relation to what it was before leave it
so one after the other, however they end. -/
theorem rel_bind {R : σ → σ → Prop} {x : Attempt σ α} {f : α → Attempt σ β}
    (htrans : ∀ {a b c : σ}, R a b → R b c → R a c) (hx : ∀ s : σ, R s (x s).2)
    (hf : ∀ (a : α) (s : σ), R s (f a s).2) (s : σ) : R s ((x >>= f) s).2 := by
  have hs := hx s
  rw [bind_apply]
  generalize x s = result at hs
  obtain ⟨ending, s'⟩ := result
  cases ending with
  | done a => exact htrans hs (hf a s')
  | failed e => exact hs
  | unwound p => exact hs

/-- What both parts leave as it was, so do the two one after the other. -/
theorem kept_bind {x : Attempt σ α} {f : α → Attempt σ β} (g : σ → τ)
    (hx : ∀ s : σ, g (x s).2 = g s) (hf : ∀ (a : α) (s : σ), g (f a s).2 = g s) (s : σ) :
    g ((x >>= f) s).2 = g s :=
  rel_bind (R := fun s s' => g s' = g s) (fun h h' => h'.trans h) hx hf s

@[simp] theorem gets_bind_apply (g : σ → α) (f : α → Attempt σ β) (s : σ) :
    (gets g >>= f) s = f (g s) s := rfl

@[simp] theorem modify_bind_apply (g : σ → σ) (f : Unit → Attempt σ β) (s : σ) :
    (modify g >>= f) s = f () (g s) := rfl

@[simp] theorem modify_apply (g : σ → σ) (s : σ) : modify g s = (.done (), g s) := rfl

/-- Looking at the error of an attempt leaves the state as the attempt does. -/
theorem settle_snd (x : Attempt σ α) (s : σ) : (x.settle s).2 = (x s).2 := by
  unfold settle
  generalize x s = result
  obtain ⟨ending, s'⟩ := result
  cases ending <;> rfl

@[simp] theorem onPart_apply (get : τ → σ) (set : τ → σ → τ) (x : Attempt σ α) (t : τ) :
    onPart get set x t = ((x (get t)).1, set t (x (get t)).2) := rfl

end Attempt

end Admission
