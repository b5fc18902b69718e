import Admission.Host
import Admission.Metrics

set_option autoImplicit false

/-!
# Desks

A desk is where a client or a worker does its work: the host, and the counters
that are kept there.
-/

namespace Admission

/-- The host together with the counters of those who work on it. -/
structure Desk where
  metrics : Metrics := {}
  host : Host
  deriving Inhabited

namespace Desk

/-- Count an event. -/
def count (event : Counter) : Attempt Desk Unit :=
  .modify fun d => { d with metrics := d.metrics.count event }

/-- Do something with the host. -/
def onHost {α : Type} (x : Attempt Host α) : Attempt Desk α :=
  x.onPart host fun d h => { d with host := h }

/-- Log a line. -/
def say (level : LogLevel) (message : String) : Attempt Desk Unit :=
  .modify fun d => { d with host := d.host.say [⟨level, message⟩] }

/-- Change the contents of a table without its lock. -/
def signal (t : SlotTable) (f : Region → Region) : Attempt Desk Unit :=
  .modify fun d => { d with host := d.host.setRegion t (f (d.host.region t)) }

end Desk

end Admission
