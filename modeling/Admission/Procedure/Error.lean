import Admission.Text.SingleLine

set_option autoImplicit false

/-!
# Errors of a database session

A database session reports what went wrong as a message and at times a hint for
whoever can mend it.
-/

namespace Admission

/-- An error raised inside a database session. -/
structure BackendError where
  message : String
  hint : Option String := none
  deriving DecidableEq, Repr, Inhabited

/-- The error with its message folded onto one line. -/
def BackendError.onOneLine (e : BackendError) : BackendError :=
  { e with message := Text.singleLine e.message }

end Admission
