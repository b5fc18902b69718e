set_option autoImplicit false

/-!
# Verdicts

The outcome of a connection check or a password check as the host sees it.
-/

namespace Admission

/-- Whether a connection or password change goes ahead. -/
inductive Verdict where
  /-- It goes ahead. -/
  | proceed
  /-- It is refused for this reason. -/
  | abort (reason : String)
  deriving DecidableEq, Repr, Inhabited

namespace Verdict

/-- No rejection lets a request proceed, and a rejection aborts it. -/
def ofRejection : Option String → Verdict
  | none => .proceed
  | some reason => .abort reason

/-- Whether the request goes ahead. -/
def isProceed : Verdict → Bool
  | .proceed => true
  | .abort _ => false

/-- The reason of a refusal. -/
def message? : Verdict → Option String
  | .proceed => none
  | .abort reason => some reason

theorem message?_ofRejection (rejection : Option String) :
    (ofRejection rejection).message? = rejection := by
  cases rejection <;> rfl

end Verdict

end Admission
