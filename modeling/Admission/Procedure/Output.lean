set_option autoImplicit false

/-!
# What a procedure answers

A procedure answers nothing, a text or rows.  A text that is not empty is a
reason to reject; of rows only the first column of the first row counts.
-/

namespace Admission

/-- A value returned by a procedure. -/
inductive Output where
  | void
  /-- A single text, which may be null. -/
  | text (value : Option String)
  /-- Rows of texts, each of which may be null. -/
  | rows (table : List (List (Option String)))
  deriving DecidableEq, Repr, Inhabited

namespace Output

/-- The text that decides, if there is one. -/
def decisive? : Output → Option String
  | .void => none
  | .text value => value
  | .rows table => (table.head?.bind List.head?).join

/-- The reason to reject, if the answer carries one. -/
def rejection? (o : Output) : Option String :=
  o.decisive?.filter (· ≠ "")

end Output

end Admission
