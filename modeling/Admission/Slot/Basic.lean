import Admission.Connection
import Admission.Procedure.Program
import Admission.Process

set_option autoImplicit false

/-!
# Slots

A slot carries one request at a time from a client to a worker and the verdict
back.  Two flags make four states: idle, pending (not available, not done),
answered (done, not yet available) and abandoned (available, not yet done).  The
generation counts the claims, so that a worker answers only the request it
copied.  Every step here is one that a party takes while it holds the table
lock.
-/

namespace Admission

/-- The bytes a rejection message may take in a slot. -/
def errorMessageCapacity : Nat := 255

/-- A slot as it lies in shared memory. -/
structure Slot where
  /-- The connection being checked. -/
  connection : SharedConnection
  /-- The status that its authentication has reached. -/
  status : Int32
  /-- The process that claimed the slot last; 0 for none. -/
  owner : Pid
  /-- The worker that serves the slot. -/
  worker : UInt32
  /-- How often the slot was claimed; it wraps at 32 bits. -/
  generation : UInt32
  /-- No client holds the slot. -/
  available : Bool
  /-- The worker has answered. -/
  done : Bool
  /-- The answer is a rejection. -/
  error : Bool
  /-- The message of a rejection. -/
  message : FixedString errorMessageCapacity
  deriving DecidableEq, Inhabited

/-- The four states that the flags of a slot make. -/
inductive SlotState where
  /-- Nobody holds the slot and nothing is to be done. -/
  | idle
  /-- A request waits for its worker. -/
  | pending
  /-- The verdict waits for its client. -/
  | answered
  /-- The client gave up before its worker answered. -/
  | abandoned
  deriving DecidableEq, Repr, Inhabited

namespace SlotState

/-- The state that two flags make. -/
def ofFlags (available done : Bool) : SlotState :=
  match available, done with
  | true, true => .idle
  | false, false => .pending
  | false, true => .answered
  | true, false => .abandoned

/-- The word for a state. -/
def word : SlotState → String
  | .idle => "IDLE"
  | .pending => "PENDING"
  | .answered => "ANSWERED"
  | .abandoned => "ABANDONED"

/-- The letter for a state. -/
def letter : SlotState → Char
  | .idle => 'I'
  | .pending => 'P'
  | .answered => 'A'
  | .abandoned => 'B'

end SlotState

/-- A claimed request as a worker copies it. -/
structure Request where
  generation : UInt32
  connection : Connection
  status : Int32
  deriving DecidableEq, Repr, Inhabited

namespace Slot

/-- The slot of an all-zero mapping. -/
def zero : Slot :=
  ⟨.zero, 0, 0, 0, 0, false, false, false, .empty _⟩

/-- The slot made ready for use by the given worker; texts and status stay. -/
def reset (s : Slot) (worker : Nat) : Slot :=
  { s with
    available := true
    done := true
    error := false
    owner := 0
    generation := 0
    worker := worker.toUInt32 }

/-- The state of the slot. -/
def state (s : Slot) : SlotState :=
  .ofFlags s.available s.done

/-- Nobody holds the slot and nothing is to be done. -/
def isIdle (s : Slot) : Bool :=
  s.available && s.done

/-- Put a verdict in: the reason of a rejection, or none. -/
def setResult (s : Slot) : Option String → Slot
  | some reason => { s with error := true, message := s.message.set reason }
  | none => { s with error := false, message := s.message.clear }

/-- The verdict in the slot. -/
def result? (s : Slot) : Option String :=
  if s.error then some s.message.toString else none

/-! ## Steps of a client -/

/-- A process that is gone still holds the slot. -/
def heldByDead (s : Slot) (ps : Processes) : Bool :=
  !s.available && !ps.isAlive s.owner

/-- Take the slot from a holder that is gone. -/
def reclaim (s : Slot) (ps : Processes) : Slot :=
  if s.heldByDead ps then { s with available := true } else s

/-- Put a request in: the slot is held, unanswered, and of the next generation. -/
def publishRequest (s : Slot) (pid : Pid) (c : Connection) (status : Int32) : Slot :=
  let filled :=
    { s with
      connection := s.connection.store c
      status
      owner := pid
      generation := s.generation + 1 }
  { filled.setResult none with available := false, done := false }

/-- Try to claim the slot; also says whether that worked. -/
def claim (s : Slot) (ps : Processes) (pid : Pid) (c : Connection) (status : Int32) :
    Slot × Bool :=
  let s := s.reclaim ps
  if s.isIdle then (s.publishRequest pid c status, true) else (s, false)

/-- Look for the verdict; with it the slot is given back. -/
def collect (s : Slot) : Slot × Option (Option String) :=
  if s.done then ({ s with available := true }, some s.result?) else (s, none)

/-- Give the slot back without a verdict, if `pid` owns it. -/
def abandon (s : Slot) (pid : Pid) : Slot :=
  if s.owner = pid then { s with available := true } else s

/-! ## Steps of a worker -/

/-- Copy the request out. -/
def request (s : Slot) : Request :=
  ⟨s.generation, s.connection.load, s.status⟩

/-- Put the verdict for a copied request in.  It is stale, and refused, when the
slot was claimed again or answered in the meantime. -/
def answer? (s : Slot) (r : Request) (rejection : Option String) : Option Slot :=
  if s.generation ≠ r.generation ∨ s.done then none
  else some { s.setResult rejection with done := true }

/-! ## Writing through the lock -/

/-- Write parts of the slot. -/
def change (s : Slot) (c : SlotChange) : Slot :=
  let s :=
    { s with
      available := c.available.getD s.available
      done := c.done.getD s.done
      generation := c.generation.getD s.generation
      status := c.status.getD s.status
      owner := c.owner.getD s.owner
      connection := match c.connection with
        | some connection => s.connection.store connection
        | none => s.connection }
  match c.result with
  | some result => s.setResult result
  | none => s

end Slot

end Admission
