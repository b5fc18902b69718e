import Admission.Layout
import Admission.Memory.Error

set_option autoImplicit false

/-!
# Errors of the pool

What can go wrong while a pool or its table is set up.  No client ever sees one
of these: handling a request always ends in a verdict.
-/

namespace Admission

/-- An error while a pool is set up. -/
inductive PoolError where
  | segment (cause : SegmentError)
  | settings (cause : ConfigError)
  /-- The table was made with other counts. -/
  | layoutMismatch (expected found : Layout)
  /-- The segment holds no table that this library can read. -/
  | incompatible (detail : String)
  /-- A worker could not be started. -/
  | spawn (detail : String)
  /-- A pool elsewhere can only be found by the name of its segment. -/
  | noSegment
  deriving DecidableEq, Repr, Inhabited

/-- The text shown for an error. -/
def PoolError.message : PoolError → String
  | .segment cause => s!"Shared memory error: {cause.message}"
  | .settings cause => s!"Configuration error: {cause.message}"
  | .layoutMismatch expected found =>
    s!"Slot table layout mismatch: expected {expected.slots} slots / {expected.workers} workers, " ++
      s!"found {found.slots} / {found.workers}"
  | .incompatible detail => s!"Incompatible slot table: {detail}"
  | .spawn detail => s!"Failed to spawn worker: {detail}"
  | .noSegment => "Client-only attach requires clientauth.segment to be set"

end Admission
