import Admission.Procedure.Isolated
import Admission.Settings.Mode

set_option autoImplicit false

/-!
# What the catalog asks for

Whether the procedures of a feature have to run at all.  With no catalog or no
procedures the mode decides: `on` accepts and `require` rejects.
-/

namespace Admission

/-- Why nothing had to run. -/
inductive AcceptReason where
  | disabled
  | catalogMissing
  | noProcedures
  deriving DecidableEq, Repr, Inhabited

/-- The name of a reason. -/
def AcceptReason.name : AcceptReason → String
  | .disabled => "Disabled"
  | .catalogMissing => "CatalogMissing"
  | .noProcedures => "NoProcedures"

/-- What is missing that the mode `require` asks for. -/
inductive RequireFailure where
  | catalogMissing
  | noProcedures
  deriving DecidableEq, Repr, Inhabited

/-- The name of what is missing. -/
def RequireFailure.name : RequireFailure → String
  | .catalogMissing => "CatalogMissing"
  | .noProcedures => "NoProcedures"

/-- The message of a rejection for something missing. -/
def RequireFailure.message (f : RequireFailure) (feature : Feature) : String :=
  match f with
  | .catalogMissing =>
    s!"\"{feature}\" feature is set to require, but the procedure catalog is not installed"
  | .noProcedures =>
    s!"\"{feature}\" feature is set to require, but no procedures are registered for it"

/-- What the catalog asks for. -/
inductive CatalogCheck where
  | accept (reason : AcceptReason)
  | reject (failure : RequireFailure)
  | run (procedures : List QualifiedName)
  deriving DecidableEq, Repr, Inhabited

/-- What a mode makes of something missing. -/
def Mode.missing (m : Mode) (failure : RequireFailure) (reason : AcceptReason) : CatalogCheck :=
  if m = .require then .reject failure else .accept reason

namespace Dialog

/-- Look at the catalog and decide whether procedures have to run. -/
def evaluate (feature : Feature) (mode : Mode) : Attempt Dialog CatalogCheck := do
  if mode = .off then
    pure (.accept .disabled)
  else if !(← catalogInstalled) then
    pure (mode.missing .catalogMissing .catalogMissing)
  else
    match ← registered feature with
    | [] => pure (mode.missing .noProcedures .noProcedures)
    | procedures => pure (.run procedures)

end Dialog

end Admission
