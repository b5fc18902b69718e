import Admission.Proofs.Strike

set_option autoImplicit false

/-!
# What an attempt keeps

An attempt keeps a reading of its state if the reading is the same afterwards, however
the attempt ends.  What is composed of such attempts keeps it too.
-/

namespace Admission

namespace Attempt

variable {σ τ α β : Type} {g : σ → τ}

/-- However the attempt ends, `g` is what it was. -/
def Keeps (g : σ → τ) (x : Attempt σ α) : Prop :=
  ∀ s : σ, g (x s).2 = g s

theorem keeps_pure (a : α) : (pure a : Attempt σ α).Keeps g :=
  fun _ => rfl

theorem keeps_gets (f : σ → α) : (gets f).Keeps g :=
  fun _ => rfl

theorem keeps_conclude (ending : Ending α) : (conclude ending : Attempt σ α).Keeps g :=
  fun _ => rfl

theorem Keeps.bind {x : Attempt σ α} {f : α → Attempt σ β} (hx : x.Keeps g)
    (hf : ∀ a : α, (f a).Keeps g) : (x >>= f).Keeps g :=
  kept_bind g hx hf

/-- What the second part keeps is after both parts what it is after the first. -/
theorem Keeps.after_bind {f : α → Attempt σ β} (hf : ∀ a : α, (f a).Keeps g)
    (x : Attempt σ α) (s : σ) : g ((x >>= f) s).2 = g (x s).2 := by
  rw [bind_apply]
  generalize x s = result
  obtain ⟨ending, s'⟩ := result
  cases ending with
  | done a => exact hf a s'
  | failed e => rfl
  | unwound p => rfl

theorem Keeps.settle {x : Attempt σ α} (hx : x.Keeps g) : x.settle.Keeps g := by
  intro s
  rw [settle_snd]
  exact hx s

theorem Keeps.bracket {opening closing undoing : Attempt σ Unit} {body : Attempt σ α}
    (hopening : opening.Keeps g) (hclosing : closing.Keeps g) (hundoing : undoing.Keeps g)
    (hbody : body.Keeps g) : (Attempt.bracket opening closing undoing body).Keeps g := by
  have hobserve : body.observe.Keeps g := fun s => hbody s
  rw [bracket_eq]
  refine hopening.bind fun _ => hobserve.bind fun ending => ?_
  cases ending with
  | done a => exact hclosing.bind fun _ => keeps_pure a
  | failed e => exact hundoing.bind fun _ => keeps_conclude _
  | unwound p => exact hundoing.bind fun _ => keeps_conclude _

/-- A composition is done exactly if both of its parts are. -/
theorem bind_eq_done_iff {x : Attempt σ α} {f : α → Attempt σ β} {s s' : σ} {b : β} :
    (x >>= f) s = (.done b, s') ↔
      ∃ (a : α) (s₁ : σ), x s = (.done a, s₁) ∧ f a s₁ = (.done b, s') := by
  rw [bind_apply]
  generalize x s = result
  obtain ⟨ending, s₁⟩ := result
  cases ending with
  | done a =>
    constructor
    · exact fun h => ⟨a, s₁, rfl, h⟩
    · rintro ⟨_, _, ⟨⟩, h⟩
      exact h
  | failed e => simp
  | unwound p => simp

end Attempt

end Admission
