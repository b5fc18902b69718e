set_option autoImplicit false

/-!
# Repeated text

A text many times over, put together by doubling.  Main statement: its
characters are those of the copies one after another (`toList_repeated`).
-/

namespace Admission.Text

/-- A text so many times over. -/
def repeated (text : String) (times : Nat) : String :=
  if times = 0 then ""
  else
    let half := repeated text (times / 2)
    if times % 2 = 0 then half ++ half else half ++ half ++ text
termination_by times

theorem toList_repeated (text : String) (times : Nat) :
    (repeated text times).toList = (List.replicate times text.toList).flatten := by
  induction times using Nat.strongRecOn with
  | _ times ih =>
    unfold repeated
    by_cases h : times = 0
    · simp [h]
    · have hh := ih (times / 2) (by omega)
      by_cases he : times % 2 = 0
      · have hs : times = times / 2 + times / 2 := by omega
        simp only [h, he, if_true, if_false, String.toList_append, hh]
        rw [← List.flatten_append, List.replicate_append_replicate, ← hs]
      · have hs : times = times / 2 + times / 2 + 1 := by omega
        simp only [h, he, if_false, String.toList_append, hh]
        have hr : List.replicate times text.toList =
            List.replicate (times / 2 + times / 2) text.toList ++ [text.toList] := by
          rw [← List.replicate_succ', ← hs]
        rw [← List.flatten_append, List.replicate_append_replicate, hr]
        simp

end Admission.Text
