import Admission.Worker

set_option autoImplicit false

/-!
# Places in the pool

A worker that finds nothing to do sleeps for the liveness interval or until it is
signalled; with an interval that nobody can sleep it keeps polling.  One that
panics is replaced by a fresh one after the restart delay, and the request it was
at is served again.  Time is that of the host's clock, which moves only while
somebody waits.
-/

namespace Admission

/-- A place in the pool: its worker, and what that waits for before it polls again. -/
structure Post where
  worker : Worker
  /-- The moment at which the worker polls again by itself. -/
  wakes : Nat := 0
  /-- The signal count noted before going to sleep.  A worker that is being
  replaced notes none, and no signal reaches it. -/
  noted : Option UInt32 := none
  deriving DecidableEq, Repr, Inhabited

/-- The least time that a new worker takes to be there, in nanoseconds. -/
def startingTime : Nat := 100000

namespace Post

/-- Whether the worker polls now: its time has come, or it was signalled. -/
def isDue (p : Post) (h : Host) : Bool :=
  p.wakes ≤ h.clock ||
    p.noted.any fun ticket => !((h.region p.worker.table).workerSignal p.worker.index).sleeps ticket

/-- When the worker polls again, if there is a request for it. -/
def wakes? (p : Post) (h : Host) : Option Nat :=
  if (p.worker.nextPending? (h.region p.worker.table)).isSome then some p.wakes else none

/-- The post with a new worker, who is there after a delay. -/
def replaced (p : Post) (delay : Duration) (h : Host) : Post where
  worker := { index := p.worker.index, table := p.worker.table }
  wakes := h.clock + max startingTime delay.length

/-- The post with a worker who found nothing to do and went to sleep. -/
def asleep (p : Post) (interval : Duration) (h : Host) : Post :=
  { p with
    wakes := h.clock + interval.asleep
    noted := some ((h.region p.worker.table).workerSignal p.worker.index).prepare }

/-- Let the worker poll, if it is due.  One that panics is replaced, which is
counted.  Also says whether a request was served. -/
def poll (settings : ClientAuthSettings) (p : Post) (d : Desk) : (Bool × Post) × Desk :=
  if p.isDue d.host then
    match Shift.poll settings ⟨p.worker, d⟩ with
    | (.done true, shift) => ((true, { worker := shift.worker }), shift.desk)
    | (.done false, shift) =>
      let p := { p with worker := shift.worker }
      ((false, p.asleep settings.livenessInterval shift.desk.host), shift.desk)
    | (_, shift) =>
      ((false, p.replaced settings.restartDelay shift.desk.host),
        { shift.desk with metrics := shift.desk.metrics.count .workerRestarts })
  else
    ((false, p), d)

/-- Let every worker that is due poll once. -/
def pollAll (settings : ClientAuthSettings) : List Post → Desk → (Bool × List Post) × Desk
  | [], d => ((false, []), d)
  | p :: rest, d =>
    let ((served, p), d) := p.poll settings d
    let ((others, rest), d) := pollAll settings rest d
    ((served || others, p :: rest), d)

/-- Let the workers that are due poll as long as requests are served, for at most
so many rounds. -/
def pollRounds (settings : ClientAuthSettings) : Nat → List Post → Desk → List Post × Desk
  | 0, ps, d => (ps, d)
  | rounds + 1, ps, d =>
    let ((served, ps), d) := pollAll settings ps d
    if served then pollRounds settings rounds ps d else (ps, d)

end Post

end Admission
