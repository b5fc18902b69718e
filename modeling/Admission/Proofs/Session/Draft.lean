import Admission.Proofs.Session.View

set_option autoImplicit false

/-!
# Drafts

What the writes of an open transaction come to, told without layers.  A draft lists
the writes in the order they were made, and keeps for every open sub-transaction the
list as it was when that began: rolling back returns to it, and releasing forgets it.
The layers of a session mirror its draft, so both give every key the same value.
-/

namespace Admission

/-- The last write of a key: its new value, or none if that was a delete. -/
def lastWrite? (ws : List Write) (key : String) : Option (Option String) :=
  (ws.filter (·.1 = key)).getLast?.map (·.2)

/-- The values after some writes, of which the last one of a key counts. -/
def Values.written (v : Values) (ws : List Write) : Values :=
  fun key => (lastWrite? ws key).getD (v key)

/-- The writes of an open transaction. -/
structure Draft where
  /-- The writes that no rollback took back, the oldest first. -/
  writes : List Write := []
  /-- The writes there were when each open sub-transaction began, the innermost first. -/
  saved : List (List Write) := []
  deriving DecidableEq, Repr, Inhabited

namespace Draft

/-- The draft with one more write. -/
def write (d : Draft) (w : Write) : Draft :=
  { d with writes := d.writes ++ [w] }

/-- Remember the writes so far. -/
def beginSub (d : Draft) : Draft :=
  { d with saved := d.writes :: d.saved }

/-- Forget what was remembered last. -/
def releaseSub (d : Draft) : Draft :=
  { d with saved := d.saved.tail }

/-- Return to what was remembered last, if there is anything. -/
def rollbackSub (d : Draft) : Draft :=
  match d.saved with
  | [] => d
  | ws :: older => ⟨ws, older⟩

end Draft

theorem lastWrite?_concat (ws : List Write) (w : Write) (key : String) :
    lastWrite? (ws ++ [w]) key = if key = w.1 then some w.2 else lastWrite? ws key := by
  simp only [lastWrite?, List.filter_append]
  by_cases h : key = w.1
  · subst h
    simp
  · simp [h, Ne.symm h]

/-! ## Layers that mirror a draft -/

/-- A layer gives every key the value of its last write. -/
def Layer.Agrees (layer : Layer) (ws : List Write) : Prop :=
  ∀ key : String, layer.get? key = lastWrite? ws key

/-- Layers, the innermost first, that mirror a draft level by level: what a level and
those below it come to is what was written up to the level above. -/
inductive Layer.Mirror : List Layer → Draft → Prop where
  /-- The transaction itself. -/
  | base {layer : Layer} {ws : List Write} (h : layer.Agrees ws) : Mirror [layer] ⟨ws, []⟩
  /-- A sub-transaction on top of other levels. -/
  | sub {top : Layer} {rest : List Layer} {ws older : List Write} {saved : List (List Write)}
      (h : Layer.Agrees (top :: rest).flatten ws) (below : Mirror rest ⟨older, saved⟩) :
      Mirror (top :: rest) ⟨ws, older :: saved⟩

namespace Layer.Mirror

variable {top parent : Layer} {rest layers : List Layer} {d : Draft}

theorem agrees (h : Mirror layers d) : Layer.Agrees layers.flatten d.writes := by
  cases h with
  | base h => simpa [Layer.Agrees] using h
  | sub h _ => exact h

theorem ne_nil (h : Mirror layers d) : layers ≠ [] := by
  cases h <;> exact List.cons_ne_nil _ _

/-- A draft has a sub-transaction open where there are two levels or more. -/
theorem saved_eq_nil_iff (h : Mirror layers d) :
    d.saved = [] ↔ ∃ layer : Layer, layers = [layer] := by
  cases h with
  | base h => simp
  | sub h below => simpa using below.ne_nil

theorem start : Mirror [[]] {} :=
  .base fun _ => rfl

theorem write (h : Mirror (top :: rest) d) (w : Write) :
    Mirror (top.write w :: rest) (d.write w) := by
  have hagrees : Layer.Agrees (top.write w :: rest).flatten (d.writes ++ [w]) := by
    intro key
    have hold := h.agrees key
    rw [List.flatten_cons, Layer.get?_append] at hold
    rw [List.flatten_cons, Layer.get?_append, Layer.get?_write, lastWrite?_concat, ← hold]
    split <;> rfl
  cases h with
  | base _ => exact .base (by simpa [Layer.Agrees] using hagrees)
  | sub _ below => exact .sub hagrees below

theorem beginSub (h : Mirror layers d) : Mirror ([] :: layers) d.beginSub :=
  .sub h.agrees h

theorem releaseSub (h : Mirror (top :: parent :: rest) d) :
    Mirror ((top ++ parent) :: rest) d.releaseSub := by
  cases h with
  | sub hagrees below =>
    cases below with
    | base _ => exact .base (by simpa [Layer.Agrees] using hagrees)
    | sub _ below => exact .sub (by simpa [Layer.Agrees] using hagrees) below

theorem rollbackSub (h : Mirror (top :: parent :: rest) d) :
    Mirror (parent :: rest) d.rollbackSub := by
  cases h with
  | sub _ below => exact below

end Layer.Mirror

end Admission
