import Admission.Proofs.Decision.Execute
import Admission.Proofs.Keeps
import Admission.Service

set_option autoImplicit false

/-!
# The tally of a service

What a service counts of the requests that come to it is its tally.  Workers count
other things, so that however long they work, and whatever becomes of that, the
tally stays as it is.
-/

namespace Admission

open Attempt

/-! ## The tally -/

/-- What is counted of requests and of what became of them. -/
structure Tally where
  requests : UInt64 := 0
  proceeded : UInt64 := 0
  aborted : UInt64 := 0
  skipped : UInt64 := 0
  timeouts : UInt64 := 0
  deriving DecidableEq, Repr, Inhabited

/-- The tally with an event added; what workers count is not in it. -/
def Tally.count (l : Tally) : Counter → Tally
  | .requests => { l with requests := l.requests + 1 }
  | .proceeded => { l with proceeded := l.proceeded + 1 }
  | .aborted => { l with aborted := l.aborted + 1 }
  | .skipped => { l with skipped := l.skipped + 1 }
  | .timeouts => { l with timeouts := l.timeouts + 1 }
  | .workerBypassed | .policyRejections | .slotReclaims | .procedureErrors | .workerRestarts => l

/-- The part of the counts that is about requests. -/
def Metrics.tally (m : Metrics) : Tally :=
  ⟨m.requests, m.proceeded, m.aborted, m.skipped, m.timeouts⟩

theorem Metrics.tally_count (m : Metrics) (event : Counter) :
    (m.count event).tally = m.tally.count event := by
  cases event <;> rfl

/-! ## Desks -/

namespace Desk

variable {α : Type}

/-- The tally that lies on a desk. -/
def tally (d : Desk) : Tally :=
  d.metrics.tally

theorem keeps_onHost (x : Attempt Host α) : (onHost x).Keeps tally :=
  fun _ => rfl

theorem keeps_say (level : LogLevel) (message : String) : (say level message).Keeps tally :=
  fun _ => rfl

theorem keeps_signal (t : SlotTable) (f : Region → Region) : (signal t f).Keeps tally :=
  fun _ => rfl

end Desk

/-! ## Workers -/

namespace Duty

/-- The tally of a session in use. -/
def tally (u : Duty) : Tally :=
  u.metrics.tally

theorem keeps_inSession {α : Type} (x : Attempt Dialog α) : (inSession x).Keeps tally :=
  fun _ => rfl

theorem keeps_noteOutcome (user : String) (o : Outcome) : (noteOutcome user o).Keeps tally := by
  cases o with
  | accepted => exact keeps_pure ()
  | rejected reason => exact keeps_pure ()
  | raised e => exact Keeps.bind (fun _ => rfl) fun _ => keeps_inSession _

theorem keeps_consult (mode : Mode) (r : Request) : (consult mode r).Keeps tally := by
  refine (keeps_inSession _).bind fun check => ?_
  cases check with
  | accept reason => exact Keeps.bind (fun _ => rfl) fun _ => keeps_pure _
  | reject failure => exact Keeps.bind (fun _ => rfl) fun _ => keeps_pure _
  | run procedures =>
    exact (keeps_inSession _).bind fun _ => (keeps_noteOutcome _ _).bind fun _ => keeps_pure _

theorem keeps_execute (mode : Mode) (r : Request) : (execute mode r).Keeps tally :=
  (keeps_inSession _).bracket (keeps_inSession _) (keeps_inSession _) (keeps_consult mode r)

end Duty

namespace Shift

/-- The tally on the desk of a worker. -/
def tally (s : Shift) : Tally :=
  s.desk.tally

theorem keeps_atDesk {α : Type} {x : Attempt Desk α} (hx : x.Keeps Desk.tally) :
    (atDesk x).Keeps tally :=
  fun s => hx s.desk

theorem keeps_takePending : takePending.Keeps tally := by
  unfold takePending
  refine (keeps_gets _).bind fun w => ?_
  split
  · exact keeps_conclude _
  · exact Keeps.bind (fun _ => rfl) fun _ => keeps_atDesk (Desk.keeps_onHost _)

theorem keeps_openSession (database : String) : (openSession database).Keeps tally := by
  unfold openSession
  refine (keeps_gets _).bind fun w => ?_
  cases w.session with
  | some session => exact Keeps.bind (fun _ => rfl) fun _ => keeps_pure _
  | none =>
    refine (keeps_atDesk (Desk.keeps_onHost _)).settle.bind ?_
    rintro (e | session)
    · exact (keeps_atDesk (Desk.keeps_say _ _)).bind fun _ => keeps_pure _
    · exact (keeps_atDesk (Desk.keeps_say _ _)).bind fun _ => keeps_pure _

theorem keeps_useSession (session : Session) (mode : Mode) (r : Request) :
    (useSession session mode r).Keeps tally := by
  intro s
  have hexecute := Duty.keeps_execute mode r ⟨⟨session, s.desk.host⟩, s.desk.metrics⟩
  unfold useSession
  generalize Duty.execute mode r ⟨⟨session, s.desk.host⟩, s.desk.metrics⟩ = result at *
  obtain ⟨ending, duty⟩ := result
  cases ending with
  | done rejection => exact hexecute
  | failed e => exact hexecute
  | unwound p => exact hexecute

theorem keeps_decide (settings : ClientAuthSettings) (r : Request) :
    (decide settings r).Keeps tally := by
  have hbypass : (do atDesk (Desk.count .workerBypassed); return none :
      Attempt Shift (Option String)).Keeps tally :=
    Keeps.bind (fun _ => rfl) fun _ => keeps_pure _
  unfold decide
  cases precheck settings r.connection with
  | skip reason => exact hbypass
  | disabled => exact hbypass
  | queue =>
    refine (keeps_openSession _).bind ?_
    rintro (e | session)
    · exact keeps_pure _
    · refine (keeps_useSession session settings.mode r).settle.bind ?_
      rintro (e | rejection)
      · exact (keeps_gets _).bind fun _ =>
          (keeps_atDesk (Desk.keeps_say _ _)).bind fun _ => keeps_pure _
      · exact keeps_pure _

theorem keeps_publish (slot : Nat) (r : Request) (rejection : Option String) :
    (publish slot r rejection).Keeps tally := by
  unfold publish
  refine (keeps_gets _).bind fun w => (keeps_atDesk (Desk.keeps_onHost _)).bind fun answered => ?_
  cases answered with
  | true => exact keeps_atDesk (Desk.keeps_signal _ _)
  | false => exact keeps_atDesk (Desk.keeps_say _ _)

theorem keeps_poll (settings : ClientAuthSettings) : (poll settings).Keeps tally := by
  unfold poll
  refine keeps_takePending.bind ?_
  rintro (- | ⟨slot, r⟩)
  · exact keeps_pure _
  · exact (keeps_decide settings r).bind fun _ =>
      (keeps_publish slot r _).bind fun _ => keeps_pure _

end Shift

namespace Post

variable (settings : ClientAuthSettings)

theorem tally_poll (p : Post) (d : Desk) : (p.poll settings d).2.tally = d.tally := by
  have hpoll := Shift.keeps_poll settings ⟨p.worker, d⟩
  unfold poll
  split
  · generalize Shift.poll settings ⟨p.worker, d⟩ = result at *
    obtain ⟨ending, shift⟩ := result
    cases ending with
    | done served => cases served <;> exact hpoll
    | failed e => exact (shift.desk.metrics.tally_count .workerRestarts).trans hpoll
    | unwound payload => exact (shift.desk.metrics.tally_count .workerRestarts).trans hpoll
  · rfl

theorem tally_pollAll (ps : List Post) (d : Desk) :
    (pollAll settings ps d).2.tally = d.tally := by
  induction ps generalizing d with
  | nil => rfl
  | cons p rest ih => exact (ih _).trans (p.tally_poll settings d)

theorem tally_pollRounds (rounds : Nat) (ps : List Post) (d : Desk) :
    (pollRounds settings rounds ps d).2.tally = d.tally := by
  induction rounds generalizing ps d with
  | zero => rfl
  | succ rounds ih =>
    have hround := tally_pollAll settings ps d
    rw [pollRounds]
    generalize pollAll settings ps d = result at *
    obtain ⟨⟨served, ps'⟩, d'⟩ := result
    cases served with
    | true => exact (ih ps' d').trans hround
    | false => exact hround

end Post

end Admission
