import Admission.Desk
import Admission.Precheck
import Admission.Procedure.Policy

set_option autoImplicit false

/-!
# Workers

A worker serves its share of the slots.  It scans them from a place that moves
on with every scan, copies the first pending request, decides it without holding
the lock, and answers unless the slot has changed hands meanwhile.  It keeps its
session from request to request and drops it when anything in it failed.
-/

namespace Admission

/-- A member of the pool. -/
structure Worker where
  index : Nat
  table : SlotTable
  /-- How many scans there were; it wraps at 64 bits. -/
  scans : UInt64 := 0
  /-- The open session, if there is one. -/
  session : Option Session := none
  deriving DecidableEq, Repr, Inhabited

/-- A worker at its desk. -/
structure Shift where
  worker : Worker
  desk : Desk
  deriving Inhabited

/-- A session in use at a desk. -/
structure Duty where
  dialog : Dialog
  metrics : Metrics
  deriving Inhabited

namespace Duty

/-- Do something in the session. -/
def inSession {α : Type} (x : Attempt Dialog α) : Attempt Duty α :=
  x.onPart dialog fun d dialog => { d with dialog }

/-- Count an event. -/
def count (event : Counter) : Attempt Duty Unit :=
  .modify fun d => { d with metrics := d.metrics.count event }

/-- Count and log that a procedure raised an error. -/
def noteOutcome (user : String) : Outcome → Attempt Duty Unit
  | .raised e => do
    count .procedureErrors
    inSession <| Dialog.onHost <| .modify
      (·.say [⟨.debug, s!"[WORKER] Procedure raised for user \"{user}\": {e.message}"⟩])
  | _ => pure ()

/-- Decide a request in a transaction: look at the catalog and run what it asks
for. -/
def execute (mode : Mode) (r : Request) : Attempt Duty (Option String) :=
  .bracket (inSession Dialog.begin) (inSession Dialog.commit) (inSession Dialog.rollback) do
    match ← inSession (Dialog.evaluate .clientauth mode) with
    | .accept _ =>
      count .workerBypassed
      return none
    | .reject failure =>
      count .policyRejections
      return some (failure.message .clientauth)
    | .run procedures =>
      let outcome ← inSession <|
        Dialog.runIsolated procedures (.clientauth r.connection r.status)
      noteOutcome r.connection.user outcome
      return outcome.rejection?

end Duty

namespace Worker

/-- The slots the worker serves. -/
def slots (w : Worker) : List Nat :=
  w.table.layout.slotsOfWorker w.index

/-- The slots in the order of the next scan. -/
def scanOrder (w : Worker) : List Nat :=
  let start := w.scans.toNat % w.slots.length
  w.slots.drop start ++ w.slots.take start

/-- The first pending slot in the order of the next scan. -/
def nextPending? (w : Worker) (r : Region) : Option Nat :=
  w.scanOrder.find? fun slot => !(r.slot slot).done

end Worker

namespace Shift

/-- Do something at the desk. -/
def atDesk {α : Type} (x : Attempt Desk α) : Attempt Shift α :=
  x.onPart desk fun s desk => { s with desk }

/-- Scan the slots and copy the first pending request.  A worker without slots
panics. -/
def takePending : Attempt Shift (Option (Nat × Request)) := do
  let w ← Attempt.gets (·.worker)
  if w.slots = [] then
    Attempt.unwind (.text "a worker without slots has nothing to scan")
  else
    Attempt.modify fun s => { s with worker := { w with scans := w.scans + 1 } }
    atDesk <| Desk.onHost fun h =>
      let (found, h) := h.locked w.table fun r =>
        ((w.nextPending? r).map fun slot => (slot, (r.slot slot).request), r)
      (.done found, h)

/-- Take the worker's session, or open one on the database. -/
def openSession (database : String) : Attempt Shift (Except BackendError Session) := do
  let w ← Attempt.gets (·.worker)
  match w.session with
  | some session =>
    Attempt.modify fun s => { s with worker := { w with session := none } }
    return .ok session
  | none =>
    match ← (atDesk (Desk.onHost (Host.connect database))).settle with
    | .ok session =>
      atDesk (Desk.say .debug s!"[WORKER] Worker {w.index} connected to \"{database}\"")
      return .ok session
    | .error e =>
      atDesk <| Desk.say .error
        s!"[WORKER] Worker {w.index} cannot connect to \"{database}\": {e.message}"
      return .error e

/-- The reason of a rejection when the database cannot be connected to. -/
def unreachable (database : String) (e : BackendError) : String :=
  s!"\"{Feature.clientauth}\" feature was not able to connect to the database " ++
    s!"\"{database}\": {e.message}"

/-- Use a session for a request.  It is kept only if nothing in it failed. -/
def useSession (session : Session) (mode : Mode) (r : Request) :
    Attempt Shift (Option String) := fun s =>
  let (ending, duty) := Duty.execute mode r ⟨⟨session, s.desk.host⟩, s.desk.metrics⟩
  let s := { s with desk := ⟨duty.metrics, duty.dialog.host⟩ }
  match ending with
  | .done rejection =>
    (.done rejection, { s with worker := { s.worker with session := some duty.dialog.session } })
  | ending => (ending, s)

/-- Decide a request: the reason to reject it, or none. -/
def decide (settings : ClientAuthSettings) (r : Request) : Attempt Shift (Option String) := do
  match precheck settings r.connection with
  | .skip _ | .disabled =>
    atDesk (Desk.count .workerBypassed)
    return none
  | .queue =>
    match ← openSession settings.database with
    | .error e => return some (unreachable settings.database e)
    | .ok session =>
      match ← (useSession session settings.mode r).settle with
      | .ok rejection => return rejection
      | .error e =>
        let w ← Attempt.gets (·.worker)
        atDesk <| Desk.say .warn
          s!"[WORKER] Worker {w.index} dropping its session after error: {e.message}"
        return some e.message

/-- Put the verdict for a request into its slot, unless it is stale. -/
def publish (slot : Nat) (r : Request) (rejection : Option String) : Attempt Shift Unit := do
  let w ← Attempt.gets (·.worker)
  let answered ← atDesk <| Desk.onHost <| Host.withSlot w.table slot fun s =>
    match s.answer? r rejection with
    | some s' => (true, s')
    | none => (false, s)
  if answered then
    atDesk (Desk.signal w.table fun region => (region.wakeAnswered slot).wakeFreed slot)
  else
    atDesk <| Desk.say .debug
      s!"[WORKER] Worker {w.index} dropping stale result for slot {slot}"

/-- Serve one pending request, if there is one; says whether there was. -/
def poll (settings : ClientAuthSettings) : Attempt Shift Bool := do
  match ← takePending with
  | none => return false
  | some (slot, r) =>
    let rejection ← decide settings r
    publish slot r (rejection.map Text.singleLine)
    return true

end Shift

end Admission
