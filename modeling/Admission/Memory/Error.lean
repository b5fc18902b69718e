set_option autoImplicit false

/-!
# Errors of shared segments
-/

namespace Admission

/-- What can go wrong with a shared segment. -/
inductive SegmentError where
  /-- The system refused to create it. -/
  | cannotCreate (detail : String)
  /-- The system refused to open it. -/
  | cannotOpen (detail : String)
  /-- The system refused to map it. -/
  | cannotMap (detail : String)
  /-- The name breaks a rule. -/
  | invalidName (reason : String)
  /-- There is no segment of this name. -/
  | notFound (name : String)
  /-- The segment has another size than is wanted. -/
  | sizeMismatch (expected actual : Nat)
  /-- Somebody else began to initialize it and never finished. -/
  | neverReady (name : String)
  deriving DecidableEq, Repr, Inhabited

/-- The text shown for an error. -/
def SegmentError.message : SegmentError → String
  | .cannotCreate detail => s!"Shared memory segment creation failed: {detail}"
  | .cannotOpen detail => s!"Shared memory segment open failed: {detail}"
  | .cannotMap detail => s!"Memory mapping failed: {detail}"
  | .invalidName reason => s!"Invalid segment name: {reason}"
  | .notFound name => s!"Segment not found: {name}"
  | .sizeMismatch expected actual =>
    s!"Segment size mismatch: expected {expected} bytes, found {actual}"
  | .neverReady name => s!"Timed out waiting for segment {name} to be initialized"

end Admission
