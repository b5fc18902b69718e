import Admission.Log
import Admission.Settings.Basic

set_option autoImplicit false

/-!
# Reloading settings

Clients and workers must agree on the table, and a pool is only started when the
hook is on at startup, so six settings keep their startup values until a
restart.  A reload takes every other setting from the submission and reports
the ones it held back.
-/

namespace Admission

/-- A setting that only a restart can change. -/
inductive RestartOnly where
  | database
  | workers
  | slots
  | segment
  /-- Turning the connection hook on, when it was off at startup. -/
  | mode
  | maxWorkerProcesses
  deriving DecidableEq, Repr, Inhabited

namespace RestartOnly

/-- All of them, in the order they are reported. -/
def all : List RestartOnly :=
  [.database, .workers, .slots, .segment, .mode, .maxWorkerProcesses]

/-- The name a setting is reported with. -/
def name : RestartOnly → String
  | .database => "clientauth.database"
  | .workers => "clientauth.workers"
  | .slots => "clientauth.slots"
  | .segment => "clientauth.segment"
  | .mode => "clientauth.mode"
  | .maxWorkerProcesses => "host.max_worker_processes"

/-- Whether a submission would change the setting against `startup`. -/
def isHeld (startup next : Settings) : RestartOnly → Bool
  | .database => next.clientauth.database ≠ startup.clientauth.database
  | .workers => next.clientauth.workers ≠ startup.clientauth.workers
  | .slots => next.clientauth.slots ≠ startup.clientauth.slots
  | .segment => next.clientauth.segment ≠ startup.clientauth.segment
  | .mode => startup.clientauth.mode = .off ∧ next.clientauth.mode ≠ .off
  | .maxWorkerProcesses => next.host.maxWorkerProcesses ≠ startup.host.maxWorkerProcesses

end RestartOnly

/-- The submission with the restart-only settings of `startup`. -/
def Settings.pinned (startup next : Settings) : Settings :=
  { next with
    clientauth :=
      { next.clientauth with
        database := startup.clientauth.database
        workers := startup.clientauth.workers
        slots := startup.clientauth.slots
        segment := startup.clientauth.segment
        mode := if startup.clientauth.mode = .off then .off else next.clientauth.mode }
    host := { maxWorkerProcesses := startup.host.maxWorkerProcesses } }

/-- The settings in which `pinned` departs from the submission. -/
def Settings.heldBack (startup next : Settings) : List RestartOnly :=
  RestartOnly.all.filter (RestartOnly.isHeld startup next)

/-- The settings of a running host: those it started with, and those in force. -/
structure LiveSettings where
  startup : Settings
  current : Settings
  deriving DecidableEq, Repr, Inhabited

namespace LiveSettings

/-- Install valid startup settings. -/
def start (s : Settings) : Except ConfigError LiveSettings := do
  s.validate
  pure ⟨s, s⟩

/-- Put a submission in force, as far as that needs no restart, and say what was
held back.  An invalid submission changes nothing. -/
def reload (live : LiveSettings) (next : Settings) :
    Except ConfigError (LiveSettings × List RestartOnly) := do
  next.validate
  pure ({ live with current := live.startup.pinned next }, live.startup.heldBack next)

/-- What is logged about a reload that held back these settings. -/
def reloadLog (held : List RestartOnly) : List LogLine :=
  held.map (fun f =>
    ⟨.warn, s!"[CONFIG] {f.name} changed but requires a restart; keeping startup value"⟩) ++
    [⟨.info, "[CONFIG] Settings reloaded"⟩]

end LiveSettings

end Admission
