import Admission.Proofs.Decision.Rest
import Admission.Proofs.Worker

set_option autoImplicit false

/-!
# A worker's decision

A worker decides in the session that it holds, or in a new one, and keeps the session
only if the decision is done.  So between two requests it holds no session, or one on
the configured database with no transaction open; and when a fault struck, it rejects
and no value has changed.
-/

namespace Admission

open Exposed Attempt

/-! ## Faults at a desk -/

instance : Exposed Desk where
  faults d := d.host.faults
  cleared d := { d with host := cleared d.host }
  faults_cleared _ := rfl
  cleared_eq_self d hf := by rw [cleared_eq_self d.host hf]

instance : Exposed Shift where
  faults s := s.desk.host.faults
  cleared s := { s with desk := cleared s.desk }
  faults_cleared _ := rfl
  cleared_eq_self s hf := by rw [cleared_eq_self s.desk hf]

namespace Desk

theorem holdsPlan_host : HoldsPlan Desk.host fun d h => { d with host := h } :=
  ⟨fun _ => rfl, fun _ _ => rfl, fun _ => rfl, fun _ _ => rfl⟩

theorem aloof_say (level : LogLevel) (message : String) : (say level message).Aloof :=
  aloof_modify (fun _ => rfl) fun _ => rfl

theorem aloof_count (event : Counter) : (count event).Aloof :=
  aloof_modify (fun _ => rfl) fun _ => rfl

theorem aloof_signal (t : SlotTable) (f : Region → Region) : (signal t f).Aloof :=
  aloof_modify (fun _ => rfl) fun _ => rfl

theorem aloof_withSlot {α : Type} (t : SlotTable) (index : Nat) (step : Slot → α × Slot) :
    (onHost (Host.withSlot t index step)).Aloof :=
  Aloof.onPart holdsPlan_host ⟨fun _ => rfl, fun _ => rfl⟩

end Desk

/-! ## The parts of a worker's decision -/

namespace Shift

variable {s : Shift} {settings : ClientAuthSettings} {r : Request} {session : Session}

/-- The worker after a request: it keeps the session of a decision that is done. -/
def keeping (w : Worker) (session : Session) : Ending (Option String) → Worker
  | .done _ => { w with session := some session }
  | _ => w

/-- Using a session is deciding in it, and keeping it if that is done. -/
theorem useSession_eq (session : Session) (mode : Mode) (r : Request) (s : Shift) :
    useSession session mode r s =
      let result := Duty.execute mode r ⟨⟨session, s.desk.host⟩, s.desk.metrics⟩
      (result.1, ⟨keeping s.worker result.2.dialog.session result.1,
        ⟨result.2.metrics, result.2.dialog.host⟩⟩) := by
  simp only [useSession]
  generalize Duty.execute mode r ⟨⟨session, s.desk.host⟩, s.desk.metrics⟩ = result
  obtain ⟨ending, u⟩ := result
  cases ending <;> rfl

/-- What the worker answers when it has used its session. -/
def report : Except BackendError (Option String) → Attempt Shift (Option String)
  | .ok rejection => return rejection
  | .error e => do
    let w ← Attempt.gets (·.worker)
    atDesk <| Desk.say .warn
      s!"[WORKER] Worker {w.index} dropping its session after error: {e.message}"
    return some e.message

/-- What the worker answers with its session, or with none. -/
def answerIn (settings : ClientAuthSettings) (r : Request) :
    Except BackendError Session → Attempt Shift (Option String)
  | .error e => return some (unreachable settings.database e)
  | .ok session => (useSession session settings.mode r).settle >>= report

theorem decide_of_queue (h : precheck settings r.connection = .queue) :
    decide settings r = openSession settings.database >>= answerIn settings r := by
  rw [decide, h]
  rfl

/-- What a worker logs about a session that it opened, or could not open. -/
def logOpened (w : Worker) (database : String) :
    Except BackendError Session → Attempt Shift (Except BackendError Session)
  | .ok session => do
    atDesk (Desk.say .debug s!"[WORKER] Worker {w.index} connected to \"{database}\"")
    return .ok session
  | .error e => do
    atDesk <| Desk.say .error
      s!"[WORKER] Worker {w.index} cannot connect to \"{database}\": {e.message}"
    return .error e

/-- A worker that holds no session opens one. -/
theorem openSession_of_none (database : String) (h : s.worker.session = none) :
    openSession database s =
      ((atDesk (Desk.onHost (Host.connect database))).settle >>=
        logOpened s.worker database) s := by
  rw [openSession, gets_bind_apply, h]
  rfl

end Shift

/-! ## Between two polls -/

namespace Worker

/-- The worker holds no session, or one on this database with no transaction open. -/
def Rested (database : String) (w : Worker) : Prop :=
  ∀ session : Session, w.session = some session → session = ⟨database, []⟩

end Worker

namespace Shift

variable {s : Shift} {settings : ClientAuthSettings} {r : Request} {session : Session}

/-- A session is kept only when a decision in it is done, and then at rest. -/
theorem useSession_rested {database : String} (hw : s.worker.Rested database) (mode : Mode) :
    (useSession ⟨database, []⟩ mode r s).2.worker.Rested database := by
  have hdone (rejection : Option String)
      (h : (Duty.execute mode r ⟨⟨⟨database, []⟩, s.desk.host⟩, s.desk.metrics⟩).1 =
        .done rejection) := Duty.execute_of_done mode r _ h
  rw [useSession_eq]
  generalize Duty.execute mode r ⟨⟨⟨database, []⟩, s.desk.host⟩, s.desk.metrics⟩ = result at hdone
  obtain ⟨ending, u⟩ := result
  cases ending with
  | failed e => exact hw
  | unwound p => exact hw
  | done rejection =>
    rintro _ ⟨⟩
    exact hdone rejection rfl

/-! ## Faults in a poll -/

section Faults

theorem holdsPlan_desk : HoldsPlan Shift.desk fun s desk => { s with desk } :=
  ⟨fun _ => rfl, fun _ _ => rfl, fun _ => rfl, fun _ _ => rfl⟩

theorem aloof_atDesk {α : Type} {x : Attempt Desk α} (hx : x.Aloof) : (atDesk x).Aloof :=
  hx.onPart holdsPlan_desk

theorem aloof_takePending : takePending.Aloof := by
  refine (aloof_gets fun _ => rfl).bind fun w => ?_
  split
  · exact aloof_conclude _
  · refine (aloof_modify ?_ ?_).bind fun _ => aloof_atDesk ?_
    · exact fun _ => rfl
    · exact fun _ => rfl
    · exact Aloof.onPart Desk.holdsPlan_host ⟨fun _ => rfl, fun _ => rfl⟩

theorem aloof_publish (slot : Nat) (r : Request) (rejection : Option String) :
    (publish slot r rejection).Aloof := by
  refine (aloof_gets fun _ => rfl).bind fun w => ?_
  refine (aloof_atDesk (Desk.aloof_withSlot _ _ _)).bind fun answered => ?_
  split
  · exact aloof_atDesk (Desk.aloof_signal _ _)
  · exact aloof_atDesk (Desk.aloof_say _ _)

theorem orderly_say (level : LogLevel) (message : String) :
    (atDesk (Desk.say level message)).Orderly :=
  (aloof_atDesk (Desk.aloof_say level message)).orderly fun _ _ => nofun

theorem orderly_count (event : Counter) : (atDesk (Desk.count event)).Orderly :=
  (aloof_atDesk (Desk.aloof_count event)).orderly fun _ _ => nofun

theorem tame_openSession (database : String) : (openSession database).Tame := by
  refine (orderly_gets fun _ => rfl).tame.bind fun w => ?_
  split
  · refine ((orderly_modify ?_ ?_).bind fun _ => orderly_pure _).tame <;> exact fun _ => rfl
  · have hconnect := ((Host.orderly_connect database).onPart Desk.holdsPlan_host).onPart
      holdsPlan_desk
    refine hconnect.tame.settle.bind fun opened => ?_
    split <;> exact ((orderly_say _ _).bind fun _ => orderly_pure _).tame

theorem tame_useSession (session : Session) (mode : Mode) (r : Request) :
    (useSession session mode r).Tame := by
  have hduty := Duty.tame_execute mode r
  refine ⟨⟨fun s => ?_, fun s => ?_⟩, fun s => ?_⟩
  · have hs := hduty.steady.struck_or_spared ⟨⟨session, s.desk.host⟩, s.desk.metrics⟩
    rw [Struck, useSession_eq]
    refine hs.imp id fun h => ⟨?_, ?_⟩
    · rw [useSession_eq]
      exact h.threats_eq
    · have hcleared : Duty.execute mode r ⟨⟨session, (cleared s).desk.host⟩,
          (cleared s).desk.metrics⟩ = _ := h.cleared_eq
      rw [useSession_eq, useSession_eq, hcleared]
      rfl
  · rw [useSession_eq]
    exact hduty.steady.narrows ⟨⟨session, s.desk.host⟩, s.desk.metrics⟩
  · rw [useSession_eq]
    exact hduty.mild ⟨⟨session, s.desk.host⟩, s.desk.metrics⟩

theorem orderly_report (answer : Except BackendError (Option String)) :
    (report answer).Orderly := by
  cases answer with
  | ok rejection => exact orderly_pure _
  | error e =>
    refine (orderly_gets fun _ => rfl).bind fun w => (orderly_say _ _).bind fun _ => orderly_pure _

theorem tame_decide (settings : ClientAuthSettings) (r : Request) :
    (decide settings r).Tame := by
  have hpassed : (do atDesk (Desk.count .workerBypassed); return none :
      Attempt Shift (Option String)).Tame :=
    ((orderly_count _).bind fun _ => orderly_pure _).tame
  cases hcheck : precheck settings r.connection with
  | skip reason => rw [decide, hcheck]; exact hpassed
  | disabled => rw [decide, hcheck]; exact hpassed
  | queue =>
    rw [decide_of_queue hcheck]
    refine (tame_openSession _).bind fun opened => ?_
    cases opened with
    | error e => exact (orderly_pure _).tame
    | ok session =>
      exact (tame_useSession session settings.mode r).settle.bind fun answer =>
        (orderly_report answer).tame

end Faults

/-! ## Opening a session -/

/-- What opening a session leaves, however it ends. -/
structure Opened (database : String) (before : Shift)
    (ending : Ending (Except BackendError Session)) (after : Shift) : Prop where
  worker_eq : after.worker = { before.worker with session := none }
  host_eq : ∃ (plan : FaultPlan) (log : List LogLine),
    after.desk.host = { before.desk.host with faults := plan, log }
  session_eq : ∀ session : Session, ending = .done (.ok session) → session = ⟨database, []⟩
  spared : ∀ session : Session, ending = .done (.ok session) → threats after = threats before

theorem opened_openSession {database : String} (hw : s.worker.Rested database) :
    Opened database s (openSession database s).1 (openSession database s).2 := by
  cases hsession : s.worker.session with
  | some session =>
    have hrun : openSession database s =
        (.done (.ok session), { s with worker := { s.worker with session := none } }) := by
      rw [openSession, gets_bind_apply, hsession]
      rfl
    rw [hrun]
    refine ⟨rfl, ⟨_, _, rfl⟩, ?_, fun _ _ => rfl⟩
    rintro _ ⟨⟩
    exact hw session hsession
  | none =>
    have hworker : s.worker = { s.worker with session := none } := by rw [← hsession]
    obtain ⟨plan, hhost⟩ := Host.connect_host database s.desk.host
    have hconnected := Host.connect_session database s.desk.host
    have hspared (session : Session) (h : (Host.connect database s.desk.host).1 = .done session) :=
      ((Host.orderly_connect database).candid.spared_of_done h).threats_eq
    rw [openSession_of_none database hsession, bind_apply, settle, atDesk, onPart_apply,
      Desk.onHost, onPart_apply]
    generalize Host.connect database s.desk.host = result at hhost hconnected hspared
    obtain ⟨ending, h⟩ := result
    dsimp only at hhost
    subst hhost
    cases ending with
    | done session =>
      refine ⟨hworker, ⟨plan, _, rfl⟩, ?_, ?_⟩
      · rintro _ ⟨⟩
        exact hconnected session rfl
      · rintro _ ⟨⟩
        exact hspared session rfl
    | failed e =>
      refine ⟨hworker, ⟨plan, _, rfl⟩, ?_, ?_⟩ <;> rintro _ ⟨⟩
    | unwound p => exact ⟨hworker, ⟨plan, _, rfl⟩, by rintro _ ⟨⟩, by rintro _ ⟨⟩⟩

/-! ## Whatever is planned -/

/-- What a worker's decision leaves, however it ends. -/
structure Decided (before : Shift) (ending : Ending (Option String)) (after : Shift) : Prop where
  worker_eq : after.worker = { before.worker with session := after.worker.session }
  host_eq : ∃ (c : Catalog) (plan : FaultPlan) (trace : List String) (log : List LogLine),
    after.desk.host = { before.desk.host with catalog := c, faults := plan, trace, log }
  /-- When a fault struck, nothing is accepted and no value changes. -/
  fails_closed : threats after < threats before →
    (∀ rejection : Option String, ending = .done rejection → rejection ≠ none) ∧
      after.desk.host.catalog.committed? = before.desk.host.catalog.committed?
  /-- A decision that is not done keeps no session and leaves the catalog as it was. -/
  undone : (∀ rejection : Option String, ending ≠ .done rejection) →
    after.worker.session = none ∧ after.desk.host.catalog = before.desk.host.catalog

variable {database : String}

/-- A session that is used for a request. -/
theorem decided_useSession (database : String) (mode : Mode) (r : Request)
    (hsession : s.worker.session = none)
    (ht : s.desk.host.catalog.TransactionalIn database) :
    Decided s (((useSession ⟨database, []⟩ mode r).settle >>= report) s).1
      (((useSession ⟨database, []⟩ mode r).settle >>= report) s).2 := by
  have hexecuted := Duty.executed_execute mode r
    (u := ⟨⟨⟨database, []⟩, s.desk.host⟩, s.desk.metrics⟩) ht rfl
  obtain ⟨c, plan, trace, log, hhost⟩ := hexecuted.host_eq
  rw [bind_apply, settle, useSession_eq]
  generalize Duty.execute mode r ⟨⟨⟨database, []⟩, s.desk.host⟩, s.desk.metrics⟩ = result
    at hexecuted hhost
  obtain ⟨ending, ⟨session, host⟩, metrics⟩ := result
  dsimp only at hhost
  subst hhost
  cases ending with
  | done rejection =>
    exact ⟨rfl, ⟨c, plan, trace, log, rfl⟩, hexecuted.fails_closed,
      fun h => absurd rfl (h rejection)⟩
  | unwound p =>
    refine ⟨rfl, ⟨c, plan, trace, log, rfl⟩,
      fun h => ⟨by rintro _ ⟨⟩, (hexecuted.fails_closed h).2⟩,
      fun _ => ⟨hsession, hexecuted.catalog_eq (by rintro _ ⟨⟩)⟩⟩
  | failed e =>
    refine ⟨rfl, ⟨c, plan, trace, _, rfl⟩, fun h => ⟨?_, (hexecuted.fails_closed h).2⟩,
      fun h => absurd rfl (h (some e.message))⟩
    rintro _ ⟨⟩
    exact Option.some_ne_none _

theorem decided_of_queue (hqueue : precheck settings r.connection = .queue)
    (hw : s.worker.Rested settings.database)
    (ht : s.desk.host.catalog.TransactionalIn settings.database) :
    Decided s (decide settings r s).1 (decide settings r s).2 := by
  have hopened := opened_openSession hw
  obtain ⟨plan, log, hhost⟩ := hopened.host_eq
  rw [decide_of_queue hqueue, bind_apply]
  generalize openSession settings.database s = result at hopened hhost
  obtain ⟨ending, ⟨worker, ⟨metrics, host⟩⟩⟩ := result
  have hworker := hopened.worker_eq
  dsimp only at hhost hworker
  subst hhost hworker
  cases ending with
  | failed e =>
    exact ⟨rfl, ⟨_, plan, _, log, rfl⟩, fun _ => ⟨by rintro _ ⟨⟩, rfl⟩, fun _ => ⟨rfl, rfl⟩⟩
  | unwound p =>
    exact ⟨rfl, ⟨_, plan, _, log, rfl⟩, fun _ => ⟨by rintro _ ⟨⟩, rfl⟩, fun _ => ⟨rfl, rfl⟩⟩
  | done opened =>
    cases opened with
    | error e =>
      refine ⟨rfl, ⟨_, plan, _, log, rfl⟩, fun _ => ⟨?_, rfl⟩, fun h => absurd rfl (h _)⟩
      rintro _ ⟨⟩
      exact Option.some_ne_none _
    | ok session =>
      obtain rfl := hopened.session_eq session rfl
      have hused := decided_useSession settings.database settings.mode r
        (s := ⟨{ s.worker with session := none },
          ⟨metrics, { s.desk.host with faults := plan, log }⟩⟩) rfl ht
      have hthreats := hopened.spared _ rfl
      obtain ⟨c, plan', trace, log', hhost⟩ := hused.host_eq
      refine ⟨hused.worker_eq, ⟨c, plan', trace, log', hhost⟩, fun h => ?_, hused.undone⟩
      rw [← hthreats] at h
      exact hused.fails_closed h

/-- However a decision ends, the slots stay as they are, and when a fault struck nothing
is accepted and no value changes. -/
theorem decided_decide (settings : ClientAuthSettings) (r : Request)
    (hw : s.worker.Rested settings.database)
    (ht : s.desk.host.catalog.TransactionalIn settings.database) :
    Decided s (decide settings r s).1 (decide settings r s).2 := by
  -- What is exempt is decided without a call that a fault could strike.
  have hpassed (metrics : Metrics) :
      Decided s (.done none) { s with desk := { s.desk with metrics } } :=
    ⟨rfl, ⟨_, _, _, _, rfl⟩, fun h => absurd h (Nat.lt_irrefl _), fun h => absurd rfl (h none)⟩
  cases hcheck : precheck settings r.connection with
  | skip reason => rw [decide, hcheck]; exact hpassed _
  | disabled => rw [decide, hcheck]; exact hpassed _
  | queue => exact decided_of_queue hcheck hw ht

/-! ## Rest -/

section Rest

variable {α β : Type}

/-- However the attempt ends, a worker at rest is still at rest. -/
def Rests (database : String) (x : Attempt Shift α) : Prop :=
  ∀ s : Shift, s.worker.Rested database → (x s).2.worker.Rested database

theorem Rests.bind {x : Attempt Shift α} {f : α → Attempt Shift β} (hx : Rests database x)
    (hf : ∀ a : α, Rests database (f a)) : Rests database (x >>= f) :=
  rel_bind (R := fun s s' : Shift => s.worker.Rested database → s'.worker.Rested database)
    (fun h h' hs => h' (h hs)) hx hf

theorem rests_atDesk (database : String) (x : Attempt Desk α) : Rests database (atDesk x) :=
  fun _ hs => hs

theorem rests_report (database : String) (answer : Except BackendError (Option String)) :
    Rests database (report answer) := by
  cases answer with
  | ok rejection => exact fun _ hs => hs
  | error e => exact fun _ hs => hs

theorem rests_decide (settings : ClientAuthSettings) (r : Request) :
    Rests settings.database (decide settings r) := by
  have hpassed : Rests settings.database (do
      atDesk (Desk.count .workerBypassed); return none : Attempt Shift (Option String)) :=
    (rests_atDesk _ _).bind fun _ _ hs => hs
  cases hcheck : precheck settings r.connection with
  | skip reason => rw [decide, hcheck]; exact hpassed
  | disabled => rw [decide, hcheck]; exact hpassed
  | queue =>
    intro s hs
    have hopened := opened_openSession hs
    rw [decide_of_queue hcheck, bind_apply]
    generalize openSession settings.database s = result at hopened
    obtain ⟨ending, s'⟩ := result
    have hempty : s'.worker.Rested settings.database := by
      rw [hopened.worker_eq]
      exact nofun
    cases ending with
    | failed e => exact hempty
    | unwound p => exact hempty
    | done opened =>
      cases opened with
      | error e => exact hempty
      | ok session =>
        obtain rfl := hopened.session_eq session rfl
        refine Rests.bind (fun s hs => ?_) (rests_report _) s' hempty
        rw [settle_snd]
        exact useSession_rested hs settings.mode

theorem rests_takePending (database : String) : Rests database takePending := by
  intro s hs
  unfold takePending
  rw [gets_bind_apply]
  split <;> exact hs

/-- A poll leaves a worker at rest at rest, however it ends. -/
theorem rests_poll (settings : ClientAuthSettings) :
    Rests settings.database (poll settings) := by
  refine (rests_takePending _).bind fun found => ?_
  split
  · exact fun _ hs => hs
  · refine (rests_decide settings _).bind fun rejection => Rests.bind ?_ fun _ _ hs => hs
    refine Rests.bind (fun _ hs => hs) fun w => (rests_atDesk _ _).bind fun answered => ?_
    split <;> exact rests_atDesk _ _

end Rest

end Shift

end Admission
