import Admission.Session.Dialog

set_option autoImplicit false

/-!
# Running procedures in isolation

The procedures registered for a feature run one after another in a
sub-transaction until one of them objects.  If one raises an error or panics,
the writes of all of them are dropped; otherwise they are kept.
-/

namespace Admission

/-- What came of running procedures. -/
inductive Outcome where
  /-- Nobody objected. -/
  | accepted
  /-- A procedure gave a reason to reject. -/
  | rejected (reason : String)
  /-- A procedure raised an error or panicked. -/
  | raised (error : BackendError)
  deriving DecidableEq, Repr, Inhabited

/-- The reason to reject, on one line; none if nobody objected. -/
def Outcome.rejection? : Outcome → Option String
  | .accepted => none
  | .rejected reason => some (Text.singleLine reason)
  | .raised e => some (Text.singleLine e.message)

/-- The error that stands for a panic of a procedure. -/
def BackendError.ofPanic (p : PanicPayload) : BackendError :=
  ⟨s!"registered procedure panicked: {p.detail}", none⟩

namespace Dialog

/-- The procedures registered for a feature, if all entries are valid names. -/
def registered (feature : Feature) : Attempt Dialog (List QualifiedName) := do
  let entries ← featureEntries feature
  .ofExcept fun d =>
    (entries.mapM fun (schema, name) => QualifiedName.of? feature schema name).map fun ns => (ns, d)

/-- Call procedures in order until one gives a reason to reject. -/
def callInOrder (args : Args) : List QualifiedName → Attempt Dialog (Option String)
  | [] => pure none
  | p :: rest => do
    match (← call p args).rejection? with
    | some reason => pure (some reason)
    | none => callInOrder args rest

/-- Run procedures in a sub-transaction.  Only what goes wrong with the
sub-transaction itself is an error. -/
def runIsolated (procedures : List QualifiedName) (args : Args) : Attempt Dialog Outcome := do
  beginSub
  match ← (callInOrder args procedures).observe with
  | .done rejection =>
    releaseSub
    pure (rejection.elim .accepted .rejected)
  | .failed e =>
    rollbackSub
    pure (.raised e)
  | .unwound p =>
    rollbackSub
    pure (.raised (.ofPanic p))

end Dialog

end Admission
