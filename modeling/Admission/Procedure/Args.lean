import Admission.Connection
import Admission.Password.Basic

set_option autoImplicit false

/-!
# What a procedure is given
-/

namespace Admission

/-- The arguments of a registered procedure. -/
inductive Args where
  /-- A connection and the status of its authentication so far. -/
  | clientauth (connection : Connection) (status : Int32)
  /-- A password being set. -/
  | passcheck (request : PasswordRequest)
  deriving DecidableEq, Inhabited

/-- The version of the connection record that procedures are given. -/
def Args.version : Nat := 1

end Admission
