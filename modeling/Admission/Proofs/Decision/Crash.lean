import Admission.Proofs.Decision.Recovery
import Admission.Proofs.Panic

set_option autoImplicit false

/-!
# When a worker panics

A panic outside of procedures takes the decision away from the worker, and nothing else:
the table has its slots and a free lock, the catalog is what it was, and the worker holds
no session.  A panic of a procedure is an answer like any other.
-/

namespace Admission

open Exposed Attempt

namespace Shift

variable {s : Shift} {settings : ClientAuthSettings} {slot : Nat} {r : Request}

/-! ## Faults of a poll -/

theorem spends_poll (settings : ClientAuthSettings) : (poll settings).Spends := by
  rw [poll_eq]
  refine (spends_of_evades aloof_takePending.evades).bind fun found => ?_
  cases found with
  | none => exact (frank_pure false).spends
  | some copied =>
    refine (frank_decide settings _).spends.bind fun rejection => ?_
    exact (spends_of_evades (aloof_publish _ _ _).evades).bind fun _ => (frank_pure true).spends

section Polls

variable (hm : s.desk.host.Maps s.worker.table)
  (hfound : found s.worker (s.desk.host.slot s.worker.table) = some (slot, r))
  (hw : s.worker.Rested settings.database)
  (ht : s.desk.host.catalog.TransactionalIn settings.database)

include hm hfound hw ht

/-- The decision of a poll is done, or a panic struck it, and then the poll ends with it. -/
theorem poll_cases :
    (¬ (poll settings).StruckBy .crash s ∧ ∃ (rejection : Option String) (decided : Shift),
      decide settings r (takePending s).2 = (.done rejection, decided)) ∨
    (poll settings).StruckBy .crash s ∧ ∃ (p : PanicPayload) (decided : Shift),
      decide settings r (takePending s).2 = (.unwound p, decided) ∧
        poll settings s = (.unwound p, decided) := by
  have hscan : threatsBy .crash (takePending s).2 = threatsBy .crash s :=
    congrArg (FaultPlan.threatsBy .crash) (handled_takePending s).faults_eq
  have hfrank := frank_decide settings r
  by_cases hcalm : ∀ p : PanicPayload, (decide settings r (takePending s).2).1 ≠ .unwound p
  · obtain ⟨rejection, decided, hrun⟩ := decide_done settings r _ hcalm
    obtain ⟨-, hleft⟩ := poll_answers hm hfound hw ht hrun
    have hspared := hfrank.threatsBy_eq hcalm
    have hafter : threatsBy .crash (poll settings s).2 = threatsBy .crash decided :=
      congrArg (FaultPlan.threatsBy .crash) hleft.faults_eq
    rw [hrun] at hspared
    rw [StruckBy, hafter, hspared, hscan]
    exact .inl ⟨Nat.lt_irrefl _, rejection, decided, hrun⟩
  · obtain ⟨p, hp⟩ := not_forall_not.mp hcalm
    have hrun : decide settings r (takePending s).2 =
        (.unwound p, (decide settings r (takePending s).2).2) := Prod.ext hp rfl
    have hpoll : poll settings s = (.unwound p, (decide settings r (takePending s).2).2) := by
      rw [(poll_of_found settings hm hfound).1, serve, bind_apply, hrun]
    have hstruck := (hfrank.unwound_iff _).mp ⟨p, hp⟩
    rw [StruckBy, hscan] at hstruck
    rw [StruckBy, hpoll]
    exact .inr ⟨hstruck, p, _, hrun, rfl⟩

/-- A poll panics exactly if a panic strikes it outside of procedures. -/
theorem poll_unwound_iff :
    (∃ p : PanicPayload, (poll settings s).1 = .unwound p) ↔
      (poll settings).StruckBy .crash s := by
  obtain ⟨hspared, rejection, decided, hrun⟩ | ⟨hstruck, p, decided, -, hpoll⟩ :=
    poll_cases hm hfound hw ht
  · obtain ⟨hanswered, -⟩ := poll_answers hm hfound hw ht hrun
    refine iff_of_false ?_ hspared
    rw [hanswered.done]
    rintro ⟨p, ⟨⟩⟩
  · exact iff_of_true ⟨p, by rw [hpoll]⟩ hstruck

/-- Unless a panic strikes the poll outside of procedures, whatever else strikes it, a panic
of a procedure too, is answered by a rejection, and no committed value changes. -/
theorem failsClosed_of_trouble (hcalm : ¬ (poll settings).StruckBy .crash s)
    (htrouble : (poll settings).Struck s ∨ (precheck settings r.connection = .queue ∧
      settings.Falters s.desk.host.catalog r.connection r.status)) :
    FailsClosed settings s slot := by
  obtain ⟨-, rejection, decided, hrun⟩ | ⟨hstruck, -⟩ := poll_cases hm hfound hw ht
  · by_cases hstruck : (poll settings).Struck s
    · obtain ⟨reason, hanswered, hkept⟩ := answered_of_struck hm hfound hw ht hrun hstruck
      exact failsClosed_of_rejection hanswered hkept
    · obtain ⟨hqueue, hfalters⟩ := htrouble.resolve_left hstruck
      exact failsClosed_of_falters hm hfound hqueue hw ht hstruck hfalters
  · exact absurd hstruck hcalm

end Polls

/-! ## What a panic leaves -/

/-- The poll left the catalog and the table as they were, with the lock of the table free,
and the worker without its session. -/
structure Undone (before after : Shift) : Prop where
  region_eq : after.desk.host.region before.worker.table =
    { before.desk.host.region before.worker.table with lock := .free }
  catalog_eq : after.desk.host.catalog = before.desk.host.catalog
  worker_eq : after.worker =
    { before.worker with scans := before.worker.scans + 1, session := none }

theorem Undone.slot_eq {after : Shift} (h : Undone s after) :
    after.desk.host.slot s.worker.table = s.desk.host.slot s.worker.table := by
  funext i
  rw [Host.slot, h.region_eq]
  rfl

/-- A scan frees the lock of the table and leaves all else in it. -/
theorem region_takePending (hm : s.desk.host.Maps s.worker.table) (hslots : s.worker.slots ≠ []) :
    (takePending s).2.desk.host.region s.worker.table =
      { s.desk.host.region s.worker.table with lock := .free } := by
  rw [(takePending_snd hslots).2]
  refine (Memory.region_setRegion hm.mapped _).trans ?_
  split <;> rfl

/-- A panic outside of procedures undoes the poll. -/
theorem undone_of_crash (hm : s.desk.host.Maps s.worker.table)
    (hfound : found s.worker (s.desk.host.slot s.worker.table) = some (slot, r))
    (hw : s.worker.Rested settings.database)
    (ht : s.desk.host.catalog.TransactionalIn settings.database)
    (hcrash : (poll settings).StruckBy .crash s) : Undone s (poll settings s).2 := by
  have hslots := slots_ne_nil_of_found hfound
  have hdecided := decided_of_scan hw ht r
  obtain ⟨hspared, -⟩ | ⟨-, p, decided, hrun, hpoll⟩ := poll_cases hm hfound hw ht
  · exact absurd hcrash hspared
  rw [hrun] at hdecided
  rw [hpoll]
  obtain ⟨_, _, _, _, hhost⟩ := hdecided.host_eq
  obtain ⟨hsession, hcatalog⟩ := hdecided.undone (by rintro _ ⟨⟩)
  have hworker := hdecided.worker_eq
  refine ⟨?_, ?_, ?_⟩
  · rw [← region_takePending hm hslots, hhost]
    rfl
  · rw [hcatalog, (handled_takePending s).catalog_eq]
  · rw [hworker, hsession, (takePending_snd hslots).1]

end Shift

end Admission
