import Admission.Proofs.Fault
import Admission.Session.Dialog

set_option autoImplicit false

/-!
# Struck or spared

A planned fault matters only when it strikes.  An attempt that no fault strikes does
what it does where none is planned, and one that a fault strikes is, in most cases,
not done.  Both carry over from the parts of an attempt to the whole, and so does that
an attempt panics only where a panic is planned.
-/

namespace Admission

/-- A state with a plan of faults. -/
class Exposed (σ : Type) where
  faults : σ → FaultPlan
  /-- The state with no faults planned. -/
  cleared : σ → σ
  faults_cleared : ∀ s : σ, faults (cleared s) = .none
  cleared_eq_self : ∀ s : σ, faults s = .none → cleared s = s

/-- How many calls the plan of a state threatens. -/
def Exposed.threats {σ : Type} [Exposed σ] (s : σ) : Nat :=
  (faults s).threats

open Exposed

namespace Attempt

variable {σ τ α β : Type}

/-- How a bracket goes on after its body. -/
def wrapUp (closing undoing : Attempt σ Unit) : Ending α → Attempt σ α
  | .done a => do
    closing
    pure a
  | ending => do
    undoing
    conclude ending

theorem bracket_eq (opening closing undoing : Attempt σ Unit) (body : Attempt σ α) :
    bracket opening closing undoing body =
      opening >>= fun _ => body.observe >>= wrapUp closing undoing := rfl

theorem mapError_snd (f : BackendError → BackendError) (x : Attempt σ α) (s : σ) :
    (x.mapError f s).2 = (x s).2 := by
  unfold mapError
  generalize x s = result
  obtain ⟨ending, s'⟩ := result
  cases ending <;> rfl

theorem mapError_eq_done_iff {f : BackendError → BackendError} {x : Attempt σ α} {s s' : σ}
    {a : α} : x.mapError f s = (.done a, s') ↔ x s = (.done a, s') := by
  unfold mapError
  generalize x s = result
  obtain ⟨ending, s''⟩ := result
  cases ending <;> simp

variable [Exposed σ] [Exposed τ]

/-- A planned fault strikes the attempt. -/
def Struck (x : Attempt σ α) (s : σ) : Prop :=
  threats (x s).2 < threats s

instance (x : Attempt σ α) (s : σ) : Decidable (x.Struck s) :=
  inferInstanceAs (Decidable (threats (x s).2 < threats s))

/-- No planned fault strikes the attempt, and it does what it does where none is
planned. -/
structure Spared (x : Attempt σ α) (s : σ) : Prop where
  threats_eq : threats (x s).2 = threats s
  cleared_eq : x (cleared s) = ((x s).1, cleared (x s).2)

/-- Planned faults matter to the attempt only if they strike it, and it plans none. -/
structure Steady (x : Attempt σ α) : Prop where
  struck_or_spared : ∀ s : σ, x.Struck s ∨ x.Spared s
  narrows : ∀ s : σ, (faults s).Narrows (faults (x s).2)

/-- An attempt that a planned fault strikes is not done. -/
structure Candid (x : Attempt σ α) : Prop where
  steady : x.Steady
  not_done : ∀ s : σ, x.Struck s → ∀ a : α, (x s).1 ≠ .done a

/-- Where only errors are planned, the attempt does not panic. -/
def Mild (x : Attempt σ α) : Prop :=
  ∀ s : σ, (faults s).ErrorsOnly → ∀ p : PanicPayload, (x s).1 ≠ .unwound p

/-- Planned faults matter to the attempt only if they strike it, and it does not panic
where only errors are planned. -/
structure Tame (x : Attempt σ α) : Prop where
  steady : x.Steady
  mild : x.Mild

/-- The attempt ends as the faults say that strike it. -/
structure Orderly (x : Attempt σ α) : Prop where
  candid : x.Candid
  mild : x.Mild

variable {x : Attempt σ α} {f : α → Attempt σ β} {s : σ}

theorem Spared.not_struck (h : x.Spared s) : ¬ x.Struck s :=
  fun hstruck => Nat.ne_of_lt hstruck h.threats_eq

/-- No attempt makes the plan threaten more calls. -/
theorem Steady.threats_le (hx : x.Steady) (s : σ) : threats (x s).2 ≤ threats s :=
  (hx.struck_or_spared s).elim Nat.le_of_lt fun h => Nat.le_of_eq h.threats_eq

theorem Steady.spared (hx : x.Steady) (h : ¬ x.Struck s) : x.Spared s :=
  (hx.struck_or_spared s).resolve_left h

theorem Candid.spared_of_done (hx : x.Candid) {a : α} (h : (x s).1 = .done a) : x.Spared s :=
  hx.steady.spared fun hstruck => hx.not_done s hstruck a h

theorem Orderly.tame (hx : x.Orderly) : x.Tame :=
  ⟨hx.candid.steady, hx.mild⟩

/-- Where no fault is planned, none is planned afterwards. -/
theorem Steady.unplanned (hx : x.Steady) (h : faults s = .none) : faults (x s).2 = .none := by
  have hthreats : threats s = 0 := congrArg FaultPlan.threats h
  have hspared : x.Spared s := hx.spared fun hstruck => by
    rw [Struck, hthreats] at hstruck
    exact Nat.not_lt_zero _ hstruck
  have hcleared := hspared.cleared_eq
  rw [cleared_eq_self s h] at hcleared
  rw [congrArg Prod.snd hcleared]
  exact faults_cleared _

/-! ## Steps that no fault can strike -/

/-- The step neither looks at the plan nor changes it. -/
structure Aloof (x : Attempt σ α) : Prop where
  faults_eq : ∀ s : σ, faults (x s).2 = faults s
  cleared_eq : ∀ s : σ, x (cleared s) = ((x s).1, cleared (x s).2)

theorem Aloof.spared (hx : x.Aloof) (s : σ) : x.Spared s :=
  ⟨congrArg FaultPlan.threats (hx.faults_eq s), hx.cleared_eq s⟩

theorem Aloof.candid (hx : x.Aloof) : x.Candid where
  steady.struck_or_spared s := .inr (hx.spared s)
  steady.narrows s _ _ h := hx.faults_eq s ▸ h
  not_done s hstruck := absurd hstruck (hx.spared s).not_struck

theorem Aloof.orderly (hx : x.Aloof) (h : ∀ (s : σ) (p : PanicPayload), (x s).1 ≠ .unwound p) :
    x.Orderly :=
  ⟨hx.candid, fun s _ => h s⟩

theorem Aloof.bind (hx : x.Aloof) (hf : ∀ a : α, (f a).Aloof) :
    (x >>= f).Aloof := by
  refine ⟨?_, fun s => ?_⟩
  · exact kept_bind faults hx.faults_eq fun a => (hf a).faults_eq
  · rw [bind_apply, bind_apply, hx.cleared_eq s]
    generalize x s = result
    obtain ⟨ending, s'⟩ := result
    cases ending with
    | done a => exact (hf a).cleared_eq s'
    | failed e => rfl
    | unwound p => rfl

theorem aloof_conclude (e : Ending α) : (conclude e : Attempt σ α).Aloof :=
  ⟨fun _ => rfl, fun _ => rfl⟩

theorem aloof_pure (a : α) : (pure a : Attempt σ α).Aloof :=
  aloof_conclude (.done a)

theorem aloof_gets {g : σ → α} (h : ∀ s : σ, g (cleared s) = g s) : (gets g).Aloof :=
  ⟨fun _ => rfl, fun s => by rw [gets, h]; rfl⟩

theorem aloof_modify {g : σ → σ} (hfaults : ∀ s : σ, faults (g s) = faults s)
    (h : ∀ s : σ, g (cleared s) = cleared (g s)) : (modify g).Aloof :=
  ⟨hfaults, fun s => by rw [modify_apply, modify_apply, h]⟩

theorem orderly_pure (a : α) : (pure a : Attempt σ α).Orderly :=
  (aloof_pure a).orderly fun _ _ => nofun

theorem orderly_gets {g : σ → α} (h : ∀ s : σ, g (cleared s) = g s) : (gets g).Orderly :=
  (aloof_gets h).orderly fun _ _ => nofun

theorem orderly_modify {g : σ → σ} (hfaults : ∀ s : σ, faults (g s) = faults s)
    (h : ∀ s : σ, g (cleared s) = cleared (g s)) : (modify g).Orderly :=
  (aloof_modify hfaults h).orderly fun _ _ => nofun

/-- A step that may refuse, and leaves the plan as it is. -/
theorem orderly_ofExcept {g : σ → Except BackendError (α × σ)}
    (hfaults : ∀ s a s', g s = .ok (a, s') → faults s' = faults s)
    (h : ∀ s : σ, g (cleared s) = (g s).map fun r => (r.1, cleared r.2)) :
    (ofExcept g).Orderly := by
  refine Aloof.orderly ⟨fun s => ?_, fun s => ?_⟩ fun s p => ?_
  · have hs := hfaults s
    unfold ofExcept
    split
    · rfl
    · rename_i a s' hg
      exact hs a s' hg
  · rw [ofExcept, ofExcept, h]
    cases g s <;> rfl
  · unfold ofExcept
    split <;> nofun

/-! ## From parts to the whole -/

theorem Struck.bind (hx : x.Struck s) (hf : ∀ a : α, (f a).Steady) : (x >>= f).Struck s := by
  simp only [Struck, bind_apply] at hx ⊢
  generalize x s = result at hx
  obtain ⟨ending, s'⟩ := result
  cases ending with
  | done a => exact Nat.lt_of_le_of_lt ((hf a).threats_le s') hx
  | failed e => exact hx
  | unwound p => exact hx

/-- After a part that is spared, what follows decides. -/
theorem Spared.bind (hx : x.Spared s) (hf : ∀ a : α, (f a).Steady) :
    (x >>= f).Struck s ∨ (x >>= f).Spared s := by
  have hcleared := hx.cleared_eq
  have hthreats := hx.threats_eq
  have happly := bind_apply x f s
  have happly' := bind_apply x f (cleared s)
  rw [hcleared] at happly'
  generalize x s = result at *
  obtain ⟨ending, s'⟩ := result
  cases ending with
  | done a =>
    refine ((hf a).struck_or_spared s').imp (fun hstruck => ?_) fun hspared => ⟨?_, ?_⟩
    · rw [Struck, happly, ← hthreats]
      exact hstruck
    · rw [happly, ← hthreats]
      exact hspared.threats_eq
    · rw [happly, happly']
      exact hspared.cleared_eq
  | failed e => exact .inr ⟨by rw [happly]; exact hthreats, by rw [happly, happly']⟩
  | unwound p => exact .inr ⟨by rw [happly]; exact hthreats, by rw [happly, happly']⟩

theorem Steady.bind (hx : x.Steady) (hf : ∀ a : α, (f a).Steady) : (x >>= f).Steady where
  struck_or_spared s :=
    (hx.struck_or_spared s).elim (fun h => .inl (h.bind hf)) fun h => h.bind hf
  narrows := rel_bind (R := fun s s' => (faults s).Narrows (faults s'))
    FaultPlan.Narrows.trans hx.narrows fun a => (hf a).narrows

theorem Candid.bind (hx : x.Candid) (hf : ∀ a : α, (f a).Candid) : (x >>= f).Candid := by
  refine ⟨hx.steady.bind fun a => (hf a).steady, fun s hstruck b hdone => ?_⟩
  have happly := bind_apply x f s
  have hspared (a : α) (h : (x s).1 = .done a) := (hx.spared_of_done h).threats_eq
  rw [Struck, happly] at hstruck
  rw [happly] at hdone
  generalize x s = result at *
  obtain ⟨ending, s'⟩ := result
  cases ending with
  | done a =>
    rw [← hspared a rfl] at hstruck
    exact (hf a).not_done s' hstruck b hdone
  | failed e => cases hdone
  | unwound p => cases hdone

theorem Mild.bind (hx : x.Tame) (hf : ∀ a : α, (f a).Mild) : (x >>= f).Mild := by
  intro s hplan
  have hs := hx.mild s hplan
  have hplan' := (hx.steady.narrows s).errorsOnly hplan
  rw [bind_apply]
  generalize x s = result at hs hplan'
  obtain ⟨ending, s'⟩ := result
  cases ending with
  | done a => exact hf a s' hplan'
  | failed e => exact fun _ => nofun
  | unwound p => exact absurd rfl (hs p)

theorem Tame.bind (hx : x.Tame) (hf : ∀ a : α, (f a).Tame) : (x >>= f).Tame :=
  ⟨hx.steady.bind fun a => (hf a).steady, .bind hx fun a => (hf a).mild⟩

theorem Orderly.bind (hx : x.Orderly) (hf : ∀ a : α, (f a).Orderly) : (x >>= f).Orderly :=
  ⟨hx.candid.bind fun a => (hf a).candid, .bind hx.tame fun a => (hf a).mild⟩

/-- Looking at the ending of an attempt keeps a panic in. -/
theorem Steady.observe (hx : x.Steady) : x.observe.Tame where
  steady.struck_or_spared s := (hx.struck_or_spared s).imp id fun h =>
    ⟨h.threats_eq, by simp only [Attempt.observe, h.cleared_eq]⟩
  steady.narrows := hx.narrows
  mild _ _ _ := nofun

theorem Tame.settle (hx : x.Tame) : x.settle.Tame := by
  refine ⟨⟨fun s => ?_, fun s => ?_⟩, fun s hplan => ?_⟩
  · rw [Struck, settle_snd]
    refine (hx.steady.struck_or_spared s).imp id fun h => ⟨?_, ?_⟩
    · rw [settle_snd]
      exact h.threats_eq
    · simp only [Attempt.settle, h.cleared_eq]
      generalize x s = result
      obtain ⟨ending, s'⟩ := result
      cases ending <;> rfl
  · rw [settle_snd]
    exact hx.steady.narrows s
  · have hs := hx.mild s hplan
    unfold Attempt.settle
    generalize x s = result at hs
    obtain ⟨ending, s'⟩ := result
    cases ending with
    | done a => exact fun _ => nofun
    | failed e => exact fun _ => nofun
    | unwound p => exact absurd rfl (hs p)

theorem Orderly.mapError (hx : x.Orderly) (f : BackendError → BackendError) :
    (x.mapError f).Orderly := by
  refine ⟨⟨⟨fun s => ?_, fun s => ?_⟩, fun s hstruck a => ?_⟩, fun s herrors p => ?_⟩
  · rw [Struck, mapError_snd]
    refine (hx.candid.steady.struck_or_spared s).imp id fun h => ⟨?_, ?_⟩
    · rw [mapError_snd]
      exact h.threats_eq
    · simp only [Attempt.mapError, h.cleared_eq]
      generalize x s = result
      obtain ⟨ending, s'⟩ := result
      cases ending <;> rfl
  · rw [mapError_snd]
    exact hx.candid.steady.narrows s
  · rw [Struck, mapError_snd] at hstruck
    have hdone := hx.candid.not_done s hstruck a
    unfold Attempt.mapError
    generalize x s = result at hdone
    obtain ⟨ending, s'⟩ := result
    cases ending with
    | done a => exact hdone
    | failed e => rintro ⟨⟩
    | unwound p => rintro ⟨⟩
  · have hmild := hx.mild s herrors p
    unfold Attempt.mapError
    generalize x s = result at hmild
    obtain ⟨ending, s'⟩ := result
    cases ending with
    | done a => rintro ⟨⟩
    | failed e => rintro ⟨⟩
    | unwound p => exact hmild

/-! ## Brackets -/

section Bracket

variable {opening closing undoing : Attempt σ Unit}

theorem Steady.wrapUp (hclosing : closing.Steady) (hundoing : undoing.Steady)
    (ending : Ending α) : (Attempt.wrapUp closing undoing ending).Steady := by
  cases ending with
  | done a => exact hclosing.bind fun _ => (aloof_conclude _).candid.steady
  | failed e => exact hundoing.bind fun _ => (aloof_conclude _).candid.steady
  | unwound p => exact hundoing.bind fun _ => (aloof_conclude _).candid.steady

theorem Tame.bracket (hopening : opening.Tame) (hclosing : closing.Tame)
    (hundoing : undoing.Tame) (hx : x.Tame) :
    (Attempt.bracket opening closing undoing x).Tame := by
  rw [bracket_eq]
  refine hopening.bind fun _ => ⟨?_, fun s hplan => ?_⟩
  · exact hx.steady.observe.steady.bind (hclosing.steady.wrapUp hundoing.steady)
  -- The body does not panic, so neither does what follows it.
  · have hs := hx.mild s hplan
    have hplan' := (hx.steady.narrows s).errorsOnly hplan
    rw [bind_apply, observe]
    generalize x s = result at hs hplan'
    obtain ⟨ending, s'⟩ := result
    cases ending with
    | done a => exact (hclosing.bind fun _ => (orderly_pure a).tame).mild s' hplan'
    | failed e =>
      have hfail : (conclude (.failed e) : Attempt σ α).Orderly :=
        (aloof_conclude _).orderly fun _ _ => nofun
      exact (hundoing.bind fun _ => hfail.tame).mild s' hplan'
    | unwound p => exact absurd rfl (hs p)

end Bracket

/-! ## On a part of the state -/

/-- A part of a state that holds its plan. -/
structure HoldsPlan (get : τ → σ) (set : τ → σ → τ) : Prop where
  faults_get : ∀ t : τ, faults (get t) = faults t
  faults_set : ∀ (t : τ) (s : σ), faults (set t s) = faults s
  cleared_get : ∀ t : τ, get (cleared t) = cleared (get t)
  cleared_set : ∀ (t : τ) (s : σ), set (cleared t) (cleared s) = cleared (set t s)

section OnPart

variable {get : τ → σ} {set : τ → σ → τ} (hp : HoldsPlan get set)

include hp

theorem struck_onPart_iff (t : τ) : (onPart get set x).Struck t ↔ x.Struck (get t) := by
  simp only [Struck, threats, onPart_apply, hp.faults_set, hp.faults_get]

theorem Aloof.onPart (hx : x.Aloof) : (Attempt.onPart get set x).Aloof := by
  refine ⟨fun t => ?_, fun t => ?_⟩
  · rw [onPart_apply, hp.faults_set, hx.faults_eq, hp.faults_get]
  · rw [onPart_apply, onPart_apply, hp.cleared_get, hx.cleared_eq, hp.cleared_set]

theorem Steady.onPart (hx : x.Steady) : (onPart get set x).Steady := by
  refine ⟨fun t => ?_, fun t => ?_⟩
  · rw [struck_onPart_iff hp]
    refine (hx.struck_or_spared (get t)).imp id fun h => ⟨?_, ?_⟩
    · have hthreats := h.threats_eq
      rw [threats, threats, hp.faults_get] at hthreats
      rw [threats, threats, onPart_apply, hp.faults_set, hthreats]
    · rw [onPart_apply, onPart_apply, hp.cleared_get, h.cleared_eq, hp.cleared_set]
  · rw [onPart_apply, hp.faults_set, ← hp.faults_get]
    exact hx.narrows (get t)

theorem Candid.onPart (hx : x.Candid) : (Attempt.onPart get set x).Candid :=
  ⟨hx.steady.onPart hp, fun t hstruck => hx.not_done (get t) ((struck_onPart_iff hp t).mp hstruck)⟩

theorem Tame.onPart (hx : x.Tame) : (Attempt.onPart get set x).Tame :=
  ⟨hx.steady.onPart hp, fun t hplan => hx.mild (get t) ((hp.faults_get t).symm ▸ hplan)⟩

theorem Orderly.onPart (hx : x.Orderly) : (Attempt.onPart get set x).Orderly :=
  ⟨hx.candid.onPart hp, (hx.tame.onPart hp).mild⟩

end OnPart

end Attempt

end Admission
