import Admission.Desk
import Admission.Verdict

set_option autoImplicit false

/-!
# Clients

A client claims the slot that its key leads to, publishes a request in it, and
waits there for the verdict.  The steps here make one attempt each, but for the
claim by a deadline; whoever waits longer repeats them.
-/

namespace Admission

/-- A party that has connections checked. -/
structure Client where
  table : SlotTable
  /-- The process that will own the slot. -/
  pid : Pid
  /-- The slot to use. -/
  slot : Nat
  deriving DecidableEq, Repr, Inhabited

/-- A published request, by the slot it is in. -/
structure Ticket where
  slot : Nat
  deriving DecidableEq, Repr, Inhabited

namespace Client

/-- The client for one of the connections of a process. -/
def forConnection (t : SlotTable) (pid : Pid) (key : Nat) : Client :=
  ⟨t, pid, t.layout.slotForKey key⟩

/-- The client for a process with a single connection. -/
def forPid (t : SlotTable) (pid : Pid) : Client :=
  forConnection t pid pid.toNat

/-- The reason of a rejection when no slot could be claimed in time. -/
def claimTimeout : String := "timed out waiting for an authentication slot"

/-- The reason of a rejection when no worker answered in time. -/
def workerTimeout : String := "timed out waiting for the authentication worker"

/-- Try once to claim the slot and publish a request. -/
def claim (cl : Client) (c : Connection) (status : Int32) : Attempt Desk (Option Ticket) := do
  let ps ← Attempt.gets (·.host.processes)
  let (lost, granted) ← Desk.onHost <| Host.withSlot cl.table cl.slot fun s =>
    let (s', granted) := s.claim ps cl.pid c status
    ((if s.heldByDead ps then some s.owner else none, granted), s')
  if let some owner := lost then
    Desk.say .warn s!"[CLIENT] Reclaiming slot {cl.slot} from dead process {owner}"
    Desk.count .slotReclaims
  if granted then
    Desk.signal cl.table (·.wakeWorker (cl.table.layout.workerForSlot cl.slot))
    return some ⟨cl.slot⟩
  else
    return none

/-- Claim the slot by a deadline: try, sleep, and try again, until an attempt is granted or
the deadline is over when one was refused.  A sleep that begins at a moment lasts `naps` of
that moment and one nanosecond more; an attempt takes no time. -/
def claimBy (cl : Client) (c : Connection) (status : Int32) (deadline : Nat) (naps : Nat → Nat)
    (d : Desk) : Ending (Option Ticket) × Desk :=
  match cl.claim c status d with
  | (.done none, refused) =>
    if d.host.clock < deadline then
      let woken := refused.host.waitUntil (d.host.clock + naps d.host.clock + 1)
      claimBy cl c status deadline naps { refused with host := woken }
    else (.done none, refused)
  | result => result
termination_by deadline - d.host.clock
decreasing_by
  simp only [Host.waitUntil]
  omega

/-- Look once for the verdict of a published request. -/
def collect (cl : Client) (ticket : Ticket) : Attempt Desk (Option Verdict) := do
  let result ← Desk.onHost <| Host.withSlot cl.table ticket.slot fun s => (s.collect.2, s.collect.1)
  match result with
  | some rejection =>
    Desk.signal cl.table (·.wakeFreed ticket.slot)
    return some (.ofRejection rejection)
  | none => return none

/-- Give up on a published request.  The slot can be claimed again when its
worker has answered. -/
def abandon (cl : Client) (ticket : Ticket) : Attempt Desk Unit := do
  Desk.onHost <| Host.withSlot cl.table ticket.slot fun s => ((), s.abandon cl.pid)
  Desk.signal cl.table (·.wakeFreed ticket.slot)

/-- Report that no slot could be claimed in time. -/
def reportNoSlot (cl : Client) : Attempt Desk Verdict := do
  Desk.count .timeouts
  Desk.say .warn s!"[CLIENT] No free slot {cl.slot} within the request timeout"
  return .abort claimTimeout

/-- Report that no worker answered in time, and give up on the request. -/
def reportNoAnswer (cl : Client) (ticket : Ticket) : Attempt Desk Verdict := do
  Desk.count .timeouts
  Desk.say .warn s!"[CLIENT] Worker did not answer slot {cl.slot} in time"
  cl.abandon ticket
  return .abort workerTimeout

/-- Publish a request and look for its verdict, with no time for either. -/
def roundTrip (cl : Client) (c : Connection) (status : Int32) : Attempt Desk Verdict := do
  match ← cl.claim c status with
  | none => cl.reportNoSlot
  | some ticket =>
    match ← cl.collect ticket with
    | some verdict => return verdict
    | none => cl.reportNoAnswer ticket

/-- How far a client is with a round trip. -/
inductive Stage where
  /-- It has not claimed its slot yet. -/
  | claiming
  /-- It waits for the verdict on what it published. -/
  | waiting (ticket : Ticket)
  | over (verdict : Verdict)
  deriving DecidableEq, Repr, Inhabited

/-- Take a round trip on by one attempt, to claim the slot or else to read the verdict.  An
attempt in vain is the last one if the deadline, should there be any, was over; else the client
sleeps, and then makes the next one.  An attempt takes no time. -/
def advance (cl : Client) (c : Connection) (status : Int32) (deadline : Option Nat)
    (stage : Stage) : Attempt Desk Stage := do
  let late ← Attempt.gets fun d => deadline.any (· ≤ d.host.clock)
  match stage with
  | .claiming =>
    match ← cl.claim c status with
    | some ticket => return .waiting ticket
    | none =>
      if late then
        let verdict ← cl.reportNoSlot
        return .over verdict
      else return stage
  | .waiting ticket =>
    match ← cl.collect ticket with
    | some verdict => return .over verdict
    | none =>
      if late then
        let verdict ← cl.reportNoAnswer ticket
        return .over verdict
      else return stage
  | .over _ => return stage

end Client

end Admission
