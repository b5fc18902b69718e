import Admission.Duration
import Admission.Layout
import Admission.Settings.Mode
import Admission.Settings.SkipList

set_option autoImplicit false

/-!
# Settings

The settings of the connection hook, of the password hook and of the hosting
server, with their defaults, and the check that they are usable.
-/

namespace Admission

/-- Settings of the connection hook. -/
structure ClientAuthSettings where
  mode : Mode := .off
  /-- The database the workers connect to. -/
  database : String := "postgres"
  /-- The size of the worker pool. -/
  workers : Nat := 2
  /-- The size of the slot table. -/
  slots : Nat := maxSlots
  /-- The name of the shared table; the empty name stands for an anonymous one. -/
  segment : String := ""
  usersToSkip : SkipList := .empty
  databasesToSkip : SkipList := .empty
  /-- How often a sleeper looks again. -/
  livenessInterval : Duration := .ofMilliseconds 1000
  /-- The bound on a whole request; without one a client waits as long as it takes. -/
  requestTimeout : Option Duration := none
  /-- The pause before a crashed worker is replaced. -/
  restartDelay : Duration := .ofMilliseconds 1000
  deriving DecidableEq, Repr, Inhabited

/-- Settings of the password hook. -/
structure PasscheckSettings where
  mode : Mode := .off
  /-- The database that holds the catalog; the empty name stands for the caller's session. -/
  database : String := ""
  deriving DecidableEq, Repr, Inhabited

/-- Limits set by the hosting server. -/
structure HostSettings where
  /-- The background workers the server can run. -/
  maxWorkerProcesses : Nat := 8
  deriving DecidableEq, Repr, Inhabited

/-- All settings. -/
structure Settings where
  clientauth : ClientAuthSettings := {}
  passcheck : PasscheckSettings := {}
  host : HostSettings := {}
  deriving DecidableEq, Repr, Inhabited

/-- Refuse a number outside `min .. max`. -/
def checkRange (setting : String) (value min max : Nat) : Except ConfigError Unit :=
  if value < min ∨ max < value then .error (.outOfRange setting value min max) else .ok ()

/-- Refuse an empty text. -/
def checkPresent (setting value : String) : Except ConfigError Unit :=
  if value = "" then .error (.missing setting) else .ok ()

/-- Check ranges and required values; the first one out of order is reported. -/
def Settings.validate (s : Settings) : Except ConfigError Unit := do
  let c := s.clientauth
  checkRange "clientauth.slots" c.slots 1 maxSlots
  checkRange "clientauth.workers" c.workers 1 c.slots
  checkRange "clientauth.liveness_interval_ms" c.livenessInterval.milliseconds64.toNat 1 3600000
  match c.requestTimeout with
  | some timeout =>
    checkRange "clientauth.request_timeout_ms" timeout.milliseconds64.toNat 1 (UInt32.size - 1)
  | none => pure ()
  checkPresent "clientauth.database" c.database

end Admission
