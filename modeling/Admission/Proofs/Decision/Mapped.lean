import Admission.Proofs.Decision.Decide
import Admission.Proofs.Keeps

set_option autoImplicit false

/-!
# Deciding makes no segments

A procedure may write to any slot of any table, but neither it nor anything else that a
worker does for a decision makes a segment or takes one away.  So a table that is mapped
before a decision is mapped after it, whatever the procedures are.
-/

namespace Admission

open Attempt

namespace Host

/-- How many segments there are. -/
def segmentCount (h : Host) : Nat :=
  h.memory.segments.length

theorem segments_strike (point : FaultPoint) : (strike point).Keeps segmentCount :=
  fun _ => rfl

theorem segments_order (o : CatalogOrder) : (order o).Keeps segmentCount := by
  intro h
  simp only [order, Attempt.ofExcept]
  cases h.catalog.obey o <;> rfl

theorem segments_define (database schema name : String) (body : Procedure) :
    (define database schema name body).Keeps segmentCount := by
  intro h
  simp only [define, Attempt.ofExcept]
  cases h.catalog.define database schema name body <;> rfl

theorem segments_databaseExists (name : String) : (databaseExists name).Keeps segmentCount :=
  (segments_strike _).bind fun _ => keeps_gets _

theorem segments_connect (database : String) : (connect database).Keeps segmentCount := by
  refine (segments_strike _).bind fun _ h => ?_
  rw [Attempt.ofExcept]
  cases h.catalog.database? database <;> rfl

theorem segments_changeSlot (t : SlotTable) (index : Nat) (c : SlotChange) :
    (changeSlot t index c).Keeps segmentCount := by
  intro h
  exact Memory.length_setRegion _ _ _

end Host

namespace Dialog

variable {α : Type}

/-- How many segments the host of a session has. -/
def segmentCount (d : Dialog) : Nat :=
  d.host.segmentCount

theorem segments_onHost {x : Attempt Host α} (hx : x.Keeps Host.segmentCount) :
    (onHost x).Keeps segmentCount :=
  fun d => hx d.host

theorem segments_strike (point : FaultPoint) :
    (onHost (Host.strike point)).Keeps segmentCount :=
  segments_onHost (Host.segments_strike point)

theorem segments_step (f : Session → Except BackendError Session) :
    (step f).Keeps segmentCount := by
  intro d
  rw [step, Attempt.ofExcept]
  cases f d.session <;> rfl

theorem segments_database : database.Keeps segmentCount := by
  intro d
  rw [database, Attempt.ofExcept]
  cases d.host.catalog.database? d.session.database <;> rfl

theorem segments_answered {x : Attempt Host Unit} (hx : x.Keeps Host.segmentCount) (d : Dialog) :
    (answered x d).2.segmentCount = d.segmentCount := by
  rw [answered_snd]
  exact hx d.host

theorem segments_perform (p : Program) : (perform p).Keeps segmentCount := by
  induction p with
  | finish ending => exact keeps_conclude ending
  | get key next ih => exact fun d => ih _ d
  | put key value next ih => exact fun d => ih () _
  | delete key next ih => exact fun d => ih () _
  | trace line next ih => exact fun d => ih () _
  | order o next ih =>
    intro d
    exact (ih _ _).trans (segments_answered (Host.segments_order o) d)
  | define database schema name body next _ ih =>
    intro d
    exact (ih _ _).trans (segments_answered (Host.segments_define database schema name body) d)
  | databaseExists database next ih =>
    intro d
    have hstep := Host.segments_databaseExists database d.host
    simp only [perform]
    generalize Host.databaseExists database d.host = result at hstep
    obtain ⟨ending, h⟩ := result
    cases ending with
    | done found => exact (ih found _).trans hstep
    | failed e => exact hstep
    | unwound payload => exact hstep
  | changeSlot table slot change next ih =>
    intro d
    simp only [perform]
    cases d.host.tables.get? table with
    | none => exact ih () d
    | some t =>
      have hstep := Host.segments_changeSlot t slot change d.host
      simp only
      generalize Host.changeSlot t slot change d.host = result at hstep
      obtain ⟨ending, h⟩ := result
      cases ending with
      | done _ => exact (ih () _).trans hstep
      | failed e => exact hstep
      | unwound payload => exact hstep

theorem segments_call (procedure : QualifiedName) (args : Args) :
    (call procedure args).Keeps segmentCount := by
  refine (segments_strike _).bind fun _ => (keeps_gets _).bind fun depth => ?_
  split
  · exact keeps_conclude _
  · refine segments_database.bind fun db => ?_
    split
    · exact keeps_conclude _
    · exact segments_perform _

theorem segments_callInOrder (args : Args) (procedures : List QualifiedName) :
    (callInOrder args procedures).Keeps segmentCount := by
  induction procedures with
  | nil => exact keeps_pure none
  | cons p rest ih =>
    refine (segments_call p args).bind fun o => ?_
    cases o.rejection? with
    | some reason => exact keeps_pure _
    | none => exact ih

theorem segments_runIsolated (procedures : List QualifiedName) (args : Args) :
    (runIsolated procedures args).Keeps segmentCount := by
  have hcalls : (callInOrder args procedures).observe.Keeps segmentCount :=
    segments_callInOrder args procedures
  rw [runIsolated_eq]
  refine ((segments_strike _).bind fun _ => segments_step _).bind fun _ => ?_
  refine hcalls.bind fun ending => ?_
  cases ending with
  | done rejection =>
    exact ((segments_strike _).bind fun _ => segments_step _).bind fun _ => keeps_pure _
  | failed e => exact fun _ => rfl
  | unwound p => exact fun _ => rfl

theorem segments_evaluate (feature : Feature) (mode : Mode) :
    (evaluate feature mode).Keeps segmentCount := by
  intro d
  obtain ⟨-, plan, hhost⟩ := looks_evaluate feature mode d
  rw [segmentCount, hhost]
  rfl

theorem segments_commit : commit.Keeps segmentCount := by
  rw [commit_eq]
  refine (segments_strike _).bind fun _ d => ?_
  unfold close
  split
  · rfl
  · dsimp only
    split <;> rfl

end Dialog

namespace Duty

/-- How many segments there are while a session is in use. -/
def segmentCount (u : Duty) : Nat :=
  u.dialog.segmentCount

theorem segments_inSession {α : Type} {x : Attempt Dialog α} (hx : x.Keeps Dialog.segmentCount) :
    (inSession x).Keeps segmentCount :=
  fun u => hx u.dialog

theorem segments_execute (mode : Mode) (r : Request) : (execute mode r).Keeps segmentCount := by
  rw [execute_eq]
  refine Keeps.bracket ?_ (segments_inSession Dialog.segments_commit) (fun _ => rfl) ?_
  · exact segments_inSession ((Dialog.segments_strike _).bind fun _ => Dialog.segments_step _)
  · refine (segments_inSession (Dialog.segments_evaluate _ _)).bind fun asked => ?_
    cases asked with
    | accept reason => exact fun _ => rfl
    | reject failure => exact fun _ => rfl
    | run procedures =>
      refine (segments_inSession (Dialog.segments_runIsolated _ _)).bind fun o => ?_
      refine Keeps.bind (fun u => ?_) fun _ => keeps_pure _
      obtain ⟨log, metrics, hnote⟩ := noteOutcome_apply r.connection.user o u
      rw [hnote]
      rfl

end Duty

namespace Shift

/-- How many segments there are around a worker. -/
def segmentCount (s : Shift) : Nat :=
  s.desk.host.segmentCount

theorem segments_openSession (database : String) :
    (openSession database).Keeps segmentCount := by
  intro s
  cases hheld : s.worker.session with
  | some session =>
    rw [openSession, gets_bind_apply, hheld]
    rfl
  | none =>
    have hconnect : (atDesk (Desk.onHost (Host.connect database))).Keeps segmentCount :=
      fun s => Host.segments_connect database s.desk.host
    rw [openSession_of_none database hheld]
    refine hconnect.settle.bind (fun opened => ?_) s
    cases opened <;> exact fun _ => rfl

/-- Whatever a decision does, there are as many segments as before. -/
theorem segments_decide (settings : ClientAuthSettings) (r : Request) :
    (decide settings r).Keeps segmentCount := by
  cases hcheck : precheck settings r.connection with
  | skip reason =>
    rw [decide, hcheck]
    exact fun _ => rfl
  | disabled =>
    rw [decide, hcheck]
    exact fun _ => rfl
  | queue =>
    rw [decide_of_queue hcheck]
    refine (segments_openSession _).bind fun opened => ?_
    cases opened with
    | error e => exact keeps_pure _
    | ok session =>
      have huse : (useSession session settings.mode r).Keeps segmentCount := by
        intro s
        rw [useSession_eq]
        exact Duty.segments_execute settings.mode r ⟨⟨session, s.desk.host⟩, s.desk.metrics⟩
      refine huse.settle.bind fun answer => ?_
      cases answer <;> exact fun _ => rfl

/-- A table that is mapped before a decision is mapped after it. -/
theorem maps_decide {s : Shift} {t : SlotTable} (hm : s.desk.host.Maps t)
    (settings : ClientAuthSettings) (r : Request) :
    (decide settings r s).2.desk.host.Maps t := by
  have hsegments : (decide settings r s).2.desk.host.memory.segments.length =
      s.desk.host.memory.segments.length := segments_decide settings r s
  exact ⟨by rw [hsegments]; exact hm.mapped, hm.valid⟩

end Shift

end Admission
