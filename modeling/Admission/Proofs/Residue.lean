import Admission.Proofs.Rotation
import Admission.Proofs.Traffic.Moves

set_option autoImplicit false

/-!
# No residue between tenants

A slot is used by one client after another, and what is written into it leaves the bytes
behind it as they were.  Still nothing of an earlier request is ever read: what a worker
copies is what its latest claim put in, with each text cut to its capacity.
-/

namespace Admission

namespace Connection

/-- The second connection is the first one, with every text cut to the longest beginning
that fits. -/
structure Trims (c kept : Connection) : Prop where
  noblock_eq : kept.noblock = c.noblock
  resolv_eq : kept.resolv = c.resolv
  errcode_eq : kept.errcode = c.errcode
  host : FixedString.LongestFront connectionFieldCapacity c.host kept.host
  hostname : FixedString.LongestFront connectionFieldCapacity c.hostname kept.hostname
  database : FixedString.LongestFront connectionFieldCapacity c.database kept.database
  user : FixedString.LongestFront connectionFieldCapacity c.user kept.user

theorem trims_cut (c : Connection) : c.Trims c.cut where
  noblock_eq := rfl
  resolv_eq := rfl
  errcode_eq := rfl
  host := FixedString.longestFront_cut connectionFieldCapacity c.host
  hostname := FixedString.longestFront_cut connectionFieldCapacity c.hostname
  database := FixedString.longestFront_cut connectionFieldCapacity c.database
  user := FixedString.longestFront_cut connectionFieldCapacity c.user

end Connection

namespace Slot

/-- The second slot comes from the first by what parties do to it under the lock, short of
another claim that is granted. -/
inductive Passes (s : Slot) : Slot → Prop where
  | rest : Passes s s
  | refuse {s' : Slot} (ps : Processes) (pid : Pid) (c : Connection) (status : Int32) :
    Passes s s' → (s'.claim ps pid c status).2 = false → Passes s (s'.claim ps pid c status).1
  | collect {s' : Slot} : Passes s s' → Passes s s'.collect.1
  | abandon {s' : Slot} (pid : Pid) : Passes s s' → Passes s (s'.abandon pid)
  | answer {s' s'' : Slot} (r : Request) (rejection : Option String) :
    Passes s s' → s'.answer? r rejection = some s'' → Passes s s''

theorem Loosened.request_eq {s s' : Slot} (h : Loosened s s') : s'.request = s.request := by
  rcases h with rfl | rfl <;> rfl

/-- Until the next claim is granted, the slot carries the same request. -/
theorem Passes.request_eq {s s' : Slot} (h : s.Passes s') : s'.request = s.request := by
  induction h with
  | rest => rfl
  | @refuse s' ps pid c status _ hrefused ih =>
    rw [claim_of_refused hrefused, (Loosened.reclaim s' ps).request_eq, ih]
  | @collect s' _ ih => rw [(Loosened.collect s').request_eq, ih]
  | @abandon s' pid _ ih => rw [(Loosened.abandon s' pid).request_eq, ih]
  | @answer s' s'' r rejection _ hanswered ih =>
    obtain ⟨-, -, rfl⟩ := answer?_eq_some_iff.mp hanswered
    rw [← ih]
    simp only [request, setResult_generation, setResult_connection, setResult_status]

/-- A claim that is granted leaves its own request, whatever the slot held before. -/
theorem request_of_granted {s : Slot} {ps : Processes} {pid : Pid} {c : Connection}
    {status : Int32} (h : (s.claim ps pid c status).2 = true) :
    (s.claim ps pid c status).1.request = ⟨s.generation + 1, c.cut, status⟩ := by
  rw [claim_of_granted h, request, publishRequest_generation, publishRequest_load,
    publishRequest_status, reclaim_eq]

end Slot

/-- A scan copies the request of the slot that it picks. -/
theorem Shift.request_of_takePending {s : Shift} {slot : Nat} {r : Request}
    (h : (takePending s).1 = .done (some (slot, r))) :
    r = (s.desk.host.slot s.worker.table slot).request := by
  by_cases hw : s.worker.slots = []
  · rw [takePending_without_slots hw] at h
    cases h
  · rw [takePending_fst hw] at h
    injection h with hfound
    exact (of_found_eq_some hfound).2.2

namespace Connection

/-- Wherever the connection is stored, it is read back trimmed, and to store it as it reads
changes no byte; and once a claim with it is granted, that is the connection which every
worker copies until the next claim is granted. -/
structure ReadsAlone (c : Connection) : Prop where
  reads : ∀ old : SharedConnection, c.Trims (old.store c).load
  again : ∀ old : SharedConnection, (old.store c).store (old.store c).load = old.store c
  copied : ∀ (s : Slot) (ps : Processes) (pid : Pid) (status : Int32),
    (s.claim ps pid c status).2 = true → ∀ (w : Shift) (slot : Nat) (r : Request),
      (s.claim ps pid c status).1.Passes (w.desk.host.slot w.worker.table slot) →
        (Shift.takePending w).1 = .done (some (slot, r)) →
          r = ⟨s.generation + 1, (SharedConnection.zero.store c).load, status⟩

/-- No connection is mixed with what was there before, and a string of any capacity reports
the loss exactly if it holds another text than it was given. -/
theorem no_residue (c : Connection) :
    c.ReadsAlone ∧ ∀ (n : Nat) (f : FixedString n) (s : String),
      FixedString.truncates n s = true ↔ (f.set s).toString ≠ s := by
  refine ⟨⟨?reads, ?again, ?copied⟩, fun n f s => FixedString.truncates_iff f s⟩
  case reads =>
    intro old
    rw [SharedConnection.load_store]
    exact c.trims_cut
  case again =>
    intro old
    exact old.store_load_store c
  case copied =>
    intro s ps pid status hgranted w slot r hpasses hscan
    rw [Shift.request_of_takePending hscan, hpasses.request_eq, Slot.request_of_granted hgranted,
      SharedConnection.load_store]

end Connection

end Admission
