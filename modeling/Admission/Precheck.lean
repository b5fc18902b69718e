import Admission.Connection
import Admission.Settings.Basic

set_option autoImplicit false

/-!
# The check before the queue

What the settings alone decide about a connection: a skip list exempts it, the
hook may be off, and all else waits for a worker.  Users are looked up before
databases, and skip lists before the mode.
-/

namespace Admission

/-- Why a connection is exempt. -/
inductive SkipReason where
  | user (name : String)
  | database (name : String)
  deriving DecidableEq, Repr, Inhabited

/-- The reason as it is logged. -/
def SkipReason.message : SkipReason → String
  | .user name => s!"user \"{name}\" is in clientauth.users_to_skip"
  | .database name => s!"database \"{name}\" is in clientauth.databases_to_skip"

/-- A decision from settings alone. -/
inductive Precheck where
  | skip (reason : SkipReason)
  | disabled
  /-- A worker has to look. -/
  | queue
  deriving DecidableEq, Repr, Inhabited

/-- Decide about a connection as far as the settings do. -/
def precheck (s : ClientAuthSettings) (c : Connection) : Precheck :=
  if s.usersToSkip.contains c.user then .skip (.user c.user)
  else if s.databasesToSkip.contains c.database then .skip (.database c.database)
  else if s.mode = .off then .disabled
  else .queue

end Admission
