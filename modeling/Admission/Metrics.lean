import Admission.Text.Escaped

set_option autoImplicit false

/-!
# Counters

What clients, workers and the pool count of their work.
-/

namespace Admission

/-- A counted event. -/
inductive Counter where
  | requests
  | proceeded
  | aborted
  | skipped
  | workerBypassed
  | policyRejections
  | slotReclaims
  | procedureErrors
  | workerRestarts
  | timeouts
  deriving DecidableEq, Repr, Inhabited

namespace Counter

/-- All counted events. -/
def all : List Counter :=
  [.requests, .proceeded, .aborted, .skipped, .workerBypassed, .policyRejections, .slotReclaims,
    .procedureErrors, .workerRestarts, .timeouts]

/-- The name an event is reported with. -/
def name : Counter → String
  | .requests => "requests"
  | .proceeded => "proceeded"
  | .aborted => "aborted"
  | .skipped => "skipped"
  | .workerBypassed => "worker_bypassed"
  | .policyRejections => "policy_rejections"
  | .slotReclaims => "slot_reclaims"
  | .procedureErrors => "procedure_errors"
  | .workerRestarts => "worker_restarts"
  | .timeouts => "timeouts"

end Counter

/-- The counts so far; they are 64-bit words. -/
structure Metrics where
  requests : UInt64 := 0
  proceeded : UInt64 := 0
  aborted : UInt64 := 0
  skipped : UInt64 := 0
  workerBypassed : UInt64 := 0
  policyRejections : UInt64 := 0
  slotReclaims : UInt64 := 0
  procedureErrors : UInt64 := 0
  workerRestarts : UInt64 := 0
  timeouts : UInt64 := 0
  deriving DecidableEq, Repr, Inhabited

namespace Metrics

/-- Count an event. -/
def count (m : Metrics) : Counter → Metrics
  | .requests => { m with requests := m.requests + 1 }
  | .proceeded => { m with proceeded := m.proceeded + 1 }
  | .aborted => { m with aborted := m.aborted + 1 }
  | .skipped => { m with skipped := m.skipped + 1 }
  | .workerBypassed => { m with workerBypassed := m.workerBypassed + 1 }
  | .policyRejections => { m with policyRejections := m.policyRejections + 1 }
  | .slotReclaims => { m with slotReclaims := m.slotReclaims + 1 }
  | .procedureErrors => { m with procedureErrors := m.procedureErrors + 1 }
  | .workerRestarts => { m with workerRestarts := m.workerRestarts + 1 }
  | .timeouts => { m with timeouts := m.timeouts + 1 }

/-- How often an event was counted. -/
def get (m : Metrics) : Counter → UInt64
  | .requests => m.requests
  | .proceeded => m.proceeded
  | .aborted => m.aborted
  | .skipped => m.skipped
  | .workerBypassed => m.workerBypassed
  | .policyRejections => m.policyRejections
  | .slotReclaims => m.slotReclaims
  | .procedureErrors => m.procedureErrors
  | .workerRestarts => m.workerRestarts
  | .timeouts => m.timeouts

/-- Counting an event adds one to its own count and leaves the others alone. -/
theorem get_count (m : Metrics) (event other : Counter) :
    (m.count event).get other = if other = event then m.get other + 1 else m.get other := by
  cases event <;> cases other <;> rfl

/-- The share of requests that no worker saw; of no requests it is zero. -/
def skipRatio (m : Metrics) : Float :=
  if m.requests = 0 then 0.0 else m.skipped.toFloat / m.requests.toFloat

/-- The sixteen hexadecimal digits of the share's 64-bit pattern. -/
def skipRatioBits (m : Metrics) : String :=
  String.ofList (Text.hexDigits 16 m.skipRatio.toBits.toNat)

end Metrics

end Admission
