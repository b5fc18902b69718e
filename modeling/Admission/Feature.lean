set_option autoImplicit false

/-!
# Features

The points at which registered procedures may object.
-/

namespace Admission

/-- An interception point. -/
inductive Feature where
  /-- A client is authenticating. -/
  | clientauth
  /-- A password is being set. -/
  | passcheck
  deriving DecidableEq, Repr, Inhabited

/-- The name of a feature in the catalog and in messages. -/
def Feature.name : Feature → String
  | .clientauth => "clientauth"
  | .passcheck => "passcheck"

instance : ToString Feature := ⟨Feature.name⟩

end Admission
