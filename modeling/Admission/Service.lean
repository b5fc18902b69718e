import Admission.Client
import Admission.Password.Check
import Admission.Post
import Admission.Settings.Reload

set_option autoImplicit false

/-!
# The service

A service answers the host's two questions: may this connection go ahead, and
may this password be set.  For connections it keeps a slot table and, unless
another process serves that table, the pool of workers that decides them.  Once
shut down it rejects whatever would need a worker.
-/

namespace Admission

/-- What a service can do for connections. -/
inductive PoolState where
  /-- The hook was off at startup, so there is no pool. -/
  | disabled
  /-- The pool runs. -/
  | running
  /-- Another process runs the pool of the table. -/
  | attached
  /-- The pool could not be started. -/
  | exhausted
  /-- The service was shut down. -/
  | stopped
  deriving DecidableEq, Repr, Inhabited

/-- The name of a state. -/
def PoolState.name : PoolState → String
  | .disabled => "Disabled"
  | .running => "Running"
  | .attached => "Attached"
  | .exhausted => "Exhausted"
  | .stopped => "Stopped"

/-- A service. -/
structure Service where
  settings : LiveSettings
  metrics : Metrics := {}
  /-- The slot table, if the hook was on at startup. -/
  table : Option SlotTable := none
  state : PoolState := .disabled
  /-- This service recorded itself as the owner of the pool. -/
  ownsPool : Bool := false
  /-- The pool, while it runs. -/
  posts : List Post := []
  deriving Inhabited

namespace Service

/-- The reason of a rejection when the pool could not be started. -/
def poolExhausted : String :=
  "\"clientauth\" feature failed to start its background workers; consider increasing " ++
    "max_worker_processes or reducing other background workers"

/-- The reason of a rejection after the shutdown. -/
def poolStopped : String := "\"clientauth\" feature is shutting down"

/-- A line about the pool. -/
def poolLine (level : LogLevel) (message : String) : List LogLine :=
  [⟨level, "[POOL] " ++ message⟩]

/-- What the end of a service is logged with. -/
def shutDownLog : List LogLine := poolLine .info "Shut down"

/-! ## Starting -/

/-- Give up on starting; the service that was begun is shut down. -/
def abandoned (e : PoolError) (h : Host) : Except PoolError Service × Host :=
  (.error e, h.say shutDownLog)

/-- Run the pool on a table that is attached, unless another process does. -/
def startPool (live : LiveSettings) (t : SlotTable) (h : Host) : Service × Host :=
  let ca := live.startup.clientauth
  let allowed := live.startup.host.maxWorkerProcesses
  let (claim, claimed) := h.claimPool t
  match claim with
  | .refused owner =>
    ({ settings := live, table := some t, state := .attached },
      claimed.say <| poolLine .info <|
        s!"Segment {ca.segment} is served by process {owner}, attaching as client only")
  | _ =>
    if allowed < ca.workers then
      ({ settings := live, table := some t, state := .exhausted },
        (claimed.say <| poolLine .error <|
          s!"{ca.workers} workers requested but max_worker_processes is {allowed}").releasePool t)
    else
      let place := if ca.segment = "" then "<anonymous>" else ca.segment
      ({ settings := live, table := some t, state := .running, ownsPool := true
         posts := (List.range ca.workers).map fun i => { worker := { index := i, table := t } } },
        claimed.say <| poolLine .info <|
          s!"Started {ca.workers} workers over {ca.slots} slots (segment {place})")

/-- Start a service: check the settings, attach to the table and run the pool.  A
pool that cannot run is no error; connections are then rejected. -/
def start (s : Settings) (h : Host) : Except PoolError Service × Host :=
  match LiveSettings.start s with
  | .error e => (.error (.settings e), h)
  | .ok live =>
    let ca := s.clientauth
    if ca.mode = .off then
      (.ok { settings := live },
        h.say (poolLine .info "clientauth is off, not starting workers"))
    else
      match Layout.of? ca.slots ca.workers with
      | .error e => abandoned (.settings e) h
      | .ok l =>
        let opened := SlotTable.attach h.memory ca.segment l
        let h := { h with memory := opened.memory }.say opened.log
        match opened.result with
        | .error e => abandoned e h
        | .ok t =>
          let (service, h) := startPool live t h
          (.ok service, h)

/-- Attach to a table that another process serves.  It must exist and have the
layout of the settings. -/
def attach (s : Settings) (h : Host) : Except PoolError Service × Host :=
  match LiveSettings.start s with
  | .error e => (.error (.settings e), h)
  | .ok live =>
    let ca := s.clientauth
    if ca.mode = .off then
      (.ok { settings := live }, h.say (poolLine .info "clientauth is off, not attaching"))
    else if ca.segment = "" then
      abandoned .noSegment h
    else
      match Layout.of? ca.slots ca.workers with
      | .error e => abandoned (.settings e) h
      | .ok expected =>
        match SlotTable.openExisting h.memory ca.segment with
        | .error e => abandoned e h
        | .ok t =>
          if t.layout ≠ expected then
            abandoned (.layoutMismatch expected t.layout) h
          else
            let ownerless :=
              if h.poolOwner t = 0 then
                poolLine .warn s!"Segment {ca.segment} has no running pool yet"
              else []
            (.ok { settings := live, table := some t, state := .attached },
              h.say <| ownerless ++
                poolLine .info s!"Attached to segment {ca.segment} as client only")

/-! ## Ending -/

/-- The process recorded as the owner of the pool, if there is a table. -/
def poolOwner? (s : Service) (h : Host) : Option Pid :=
  s.table.map h.poolOwner

/-- The host after the service gave up the pool, if it owns it. -/
def withoutPool (s : Service) (h : Host) : Host :=
  match s.ownsPool, s.table with
  | true, some t => h.releasePool t
  | _, _ => h

/-- Stop the pool and reject from now on.  A second shutdown does nothing. -/
def shutdown (s : Service) (h : Host) : Service × Host :=
  if s.state = .stopped then (s, h)
  else
    ({ s with state := .stopped, ownsPool := false, posts := [] },
      (s.withoutPool h).say shutDownLog)

/-! ## The pool at work -/

/-- Let the pool serve what it can without waiting; one round for each slot is
enough.  The lines that workers log are kept apart from those of the caller. -/
def serve (s : Service) (h : Host) : Service × Host :=
  match s.state, s.table with
  | .running, some t =>
    let (posts, d) :=
      Post.pollRounds s.settings.current.clientauth (t.layout.slots + 1) s.posts ⟨s.metrics, h⟩
    ({ s with posts, metrics := d.metrics }, { d.host with log := h.log })
  | _, _ => (s, h)

/-- Put a submission in force, as far as that needs no restart, and say what was
held back.  Workers that keep polling notice before anything else happens; one
that sleeps does so when it wakes. -/
def reload (s : Service) (next : Settings) (h : Host) :
    Except ConfigError (List RestartOnly × Service × Host) := do
  let (live, held) ← s.settings.reload next
  let sleepless := s.settings.current.clientauth.livenessInterval.asleep = 0
  let s := { s with settings := live }
  let (s, h) := if sleepless then s.serve h else (s, h)
  return (held, s, h.say (LiveSettings.reloadLog held))

/-- The moments at which workers with something to do poll again. -/
def wakings (s : Service) (h : Host) : List Nat :=
  s.posts.filterMap (·.wakes? h)

end Service

end Admission
