import Admission.Service

set_option autoImplicit false

/-!
# Sites

A site is a host with the services that run on it.  A connection that a service
sends through a slot table is decided by whichever service of the site runs the
pool of that table.
-/

namespace Admission

/-- A host and its services. -/
structure Site where
  host : Host
  services : Dict String Service := .empty
  deriving Inhabited

namespace Site

/-- The service of a name. -/
def service (s : Site) (name : String) : Service :=
  (s.services.get? name).getD default

/-- Replace the service of a name. -/
def setService (s : Site) (name : String) (service : Service) : Site :=
  { s with services := s.services.insert name service }

/-- The desk of a service. -/
def desk (name : String) (s : Site) : Desk :=
  ⟨(s.service name).metrics, s.host⟩

/-- Put the desk of a service back. -/
def withDesk (name : String) (s : Site) (d : Desk) : Site :=
  { s.setService name { s.service name with metrics := d.metrics } with host := d.host }

/-- Do something at the desk of a service. -/
def atDesk {α : Type} (name : String) (x : Attempt Desk α) : Attempt Site α :=
  x.onPart (desk name) (withDesk name)

/-- Do something with the host. -/
def onHost {α : Type} (x : Attempt Host α) : Attempt Site α :=
  x.onPart host fun s h => { s with host := h }

/-- Take the service of a name away after shutting it down. -/
def dropService (s : Site) (name : String) : Site :=
  match s.services.get? name with
  | none => s
  | some service =>
    { s with host := (service.shutdown s.host).2, services := s.services.erase name }

/-- Put a new service in place of whatever has the name.  If it cannot be made,
nothing has the name afterwards. -/
def launch (s : Site) (name : String) (make : Host → Except PoolError Service × Host) :
    Except PoolError Service × Site :=
  let s := s.dropService name
  let (result, h) := make s.host
  let s := { s with host := h }
  match result with
  | .error e => (.error e, s)
  | .ok service => (.ok service, s.setService name service)

/-! ## Waiting for a pool -/

/-- The names of the services on a segment. -/
def servicesOn (s : Site) (segment : Nat) : List String :=
  (s.services.entries.filter fun e => e.2.table.any (·.segment = segment)).map (·.1)

/-- Let the pool of a segment serve what it can without waiting. -/
def serve (segment : Nat) (s : Site) : Site :=
  (s.servicesOn segment).foldl (fun s name =>
    let (service, h) := (s.service name).serve s.host
    { s.setService name service with host := h }) s

/-- The next moment at which a worker of a segment has something to do. -/
def nextWaking? (s : Site) (segment : Nat) : Option Nat :=
  ((s.servicesOn segment).flatMap fun name => (s.service name).wakings s.host).min?

/-- Let time pass until a slot is answered, for as long as that can help and no
deadline is reached, with so many pauses at most. -/
def awaitAnswer (t : SlotTable) (slot : Nat) (deadline : Option Nat) : Nat → Site → Site
  | 0, s => serve t.segment s
  | pauses + 1, s =>
    let s := serve t.segment s
    if ((s.host.region t).slot slot).done then s
    else
      match s.nextWaking? t.segment with
      | none => s
      | some moment =>
        if deadline.all (moment < ·) then
          awaitAnswer t slot deadline pauses { s with host := s.host.waitUntil moment }
        else s

/-- The pauses that are enough: a worker that wakes serves a request or meets a
planned fault. -/
def enoughPauses (s : Site) (t : SlotTable) : Nat :=
  t.layout.slots + s.host.faults.size + 1

/-- Wait for the answer in a slot of a table. -/
def await (t : SlotTable) (slot : Nat) (deadline : Option Nat) : Attempt Site Unit :=
  .modify fun s => awaitAnswer t slot deadline (s.enoughPauses t) s

/-- Let time pass until a deadline. -/
def expire (deadline : Option Nat) : Attempt Site Unit :=
  .modify fun s => { s with host := s.host.waitUntil (deadline.getD 0) }

/-- The moment at which a timeout that begins now is over.  One that the clock
cannot tell is a panic. -/
def deadline (timeout : Option Duration) : Attempt Site (Option Nat) :=
  match timeout with
  | none => return none
  | some d => do
    match ← Attempt.gets (·.host.momentAfter? d) with
    | some moment => return some moment
    | none => .unwind (.text "overflow when adding duration to instant")

/-- Send a connection through a slot table and wait for the verdict.  Without a
timeout the wait ends when nothing can come any more.  When the pool has served
what it can, a slot that is not free then stays so: whoever claims it sleeps until
the deadline. -/
def roundTrip (name : String) (cl : Client) (c : Connection) (status : Int32)
    (timeout : Option Duration) : Attempt Site Verdict := do
  let deadline ← deadline timeout
  await cl.table cl.slot deadline
  let last := deadline.getD 0
  match ← atDesk name (cl.claimBy c status last fun now => last - now - 1) with
  | none => atDesk name cl.reportNoSlot
  | some ticket =>
    await cl.table cl.slot deadline
    match ← atDesk name (cl.collect ticket) with
    | some verdict => return verdict
    | none =>
      expire deadline
      atDesk name (cl.reportNoAnswer ticket)

/-! ## The host's questions -/

/-- Count and log a verdict. -/
def report (name : String) (c : Connection) : Verdict → Attempt Site Unit
  | .proceed => atDesk name (Desk.count .proceeded)
  | .abort reason => do
    atDesk name (Desk.count .aborted)
    atDesk name <| Desk.say .debug
      s!"[CLIENT] Rejected user \"{c.user}\" on database \"{c.database}\": {reason}"

/-- Have a connection checked by a service.  The slot follows the key, and the
process owns it meanwhile. -/
def authenticate (name : String) (pid : Pid) (key : Nat) (c : Connection) (status : Int32) :
    Attempt Site Verdict := do
  atDesk name (Desk.count .requests)
  let service ← Attempt.gets (·.service name)
  let exempt := do
    atDesk name (Desk.count .skipped)
    atDesk name (Desk.count .proceeded)
    return Verdict.proceed
  match precheck service.settings.current.clientauth c with
  | .skip reason =>
    atDesk name (Desk.say .info s!"[CLIENT] Skipping clientauth: {reason.message}")
    exempt
  | .disabled => exempt
  | .queue =>
    let verdict ← match service.state, service.table with
      | .running, some t | .attached, some t =>
        roundTrip name (.forConnection t pid key) c status
          service.settings.current.clientauth.requestTimeout
      | .exhausted, _ => pure (.abort Service.poolExhausted)
      | .disabled, _ => pure .proceed
      | _, _ => pure (.abort Service.poolStopped)
    report name c verdict
    return verdict

/-- Have a password checked by a service, in the caller's session unless a
database is configured for it. -/
def checkPassword (name : String) (r : PasswordRequest) : Attempt (Session × Site) Unit :=
  fun (caller, s) =>
    let settings := (s.service name).settings.current.passcheck
    if settings.database = "" then
      let (ending, d) := PasswordCheck.check settings r ⟨caller, s.host⟩
      (ending, d.session, { s with host := d.host })
    else
      let (ending, h) := PasswordCheck.checkVia settings r s.host
      (ending, caller, { s with host := h })

end Site

end Admission
