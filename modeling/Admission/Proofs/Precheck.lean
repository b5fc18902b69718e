import Admission.Proofs.Connection
import Admission.Worker

set_option autoImplicit false

/-!
# The check before the queue, taken twice

The client checks a connection as it came, the worker checks the copy in the slot,
whose names are cut to their capacity.  The two agree on names that fit.  A longer
name is looked up as its beginning, so a list that names the beginning exempts it:
the main statement says exactly when the worker still queues what the client
queued, and what it does otherwise.
-/

namespace Admission

/-! ## When a connection queues -/

theorem precheck_eq_queue_iff {s : ClientAuthSettings} {c : Connection} :
    precheck s c = .queue ↔
      c.user ∉ s.usersToSkip.entries ∧ c.database ∉ s.databasesToSkip.entries ∧ s.mode ≠ .off := by
  unfold precheck
  split
  · rename_i h
    simp [SkipList.contains_iff.mp h]
  · rename_i hu
    rw [SkipList.contains_iff] at hu
    split
    · rename_i h
      simp [SkipList.contains_iff.mp h]
    · rename_i hd
      rw [SkipList.contains_iff] at hd
      split
      · rename_i h
        simp [h]
      · rename_i h
        simp [hu, hd, h]

/-- A worker accepts what does not queue without looking any further. -/
theorem Shift.decide_of_not_queue {s : ClientAuthSettings} {r : Request} (w : Shift)
    (h : precheck s r.connection ≠ .queue) : (Shift.decide s r w).1 = .done none := by
  unfold Shift.decide
  cases hp : precheck s r.connection with
  | skip reason => rfl
  | disabled => rfl
  | queue => exact absurd hp h

theorem FixedString.cut_of_fits {s : String} (h : s.utf8ByteSize ≤ connectionFieldCapacity) :
    FixedString.cut connectionFieldCapacity s = s :=
  FixedString.cut_eq_self_iff.mpr h

/-- Of a connection that queues, the copy in the slot queues exactly if neither name,
cut to its capacity, is on its list; so it does when both names fit.  What does not
queue again is accepted by the worker as exempt. -/
theorem copy_queues_iff {s : ClientAuthSettings} {c : Connection} (h : precheck s c = .queue)
    (old : SharedConnection) :
    (precheck s (old.store c).load = .queue ↔
      FixedString.cut connectionFieldCapacity c.user ∉ s.usersToSkip.entries ∧
        FixedString.cut connectionFieldCapacity c.database ∉ s.databasesToSkip.entries) ∧
    (c.user.utf8ByteSize ≤ connectionFieldCapacity →
      c.database.utf8ByteSize ≤ connectionFieldCapacity →
        precheck s (old.store c).load = .queue) ∧
    ∀ (w : Shift) (generation : UInt32) (status : Int32),
      precheck s (old.store c).load ≠ .queue →
        (Shift.decide s ⟨generation, (old.store c).load, status⟩ w).1 = .done none := by
  have hc := precheck_eq_queue_iff.mp h
  have hiff : precheck s (old.store c).load = .queue ↔
      FixedString.cut connectionFieldCapacity c.user ∉ s.usersToSkip.entries ∧
        FixedString.cut connectionFieldCapacity c.database ∉ s.databasesToSkip.entries := by
    rw [SharedConnection.load_store, precheck_eq_queue_iff]
    exact ⟨fun hq => ⟨hq.1, hq.2.1⟩, fun hq => ⟨hq.1, hq.2, hc.2.2⟩⟩
  refine ⟨hiff, ?_, fun w generation status hq => Shift.decide_of_not_queue w hq⟩
  intro hu hd
  rw [hiff, FixedString.cut_of_fits hu, FixedString.cut_of_fits hd]
  exact ⟨hc.1, hc.2.1⟩

/-! ## A name one byte too long -/

/-- A name of so many letters. -/
def letters (count : Nat) : String :=
  String.ofList (List.replicate count 'u')

theorem letters_inj {m n : Nat} : letters m = letters n ↔ m = n := by
  rw [letters, letters, String.ofList_inj]
  constructor
  · intro h
    simpa using congrArg List.length h
  · intro h
    rw [h]

theorem cut_letters (n count : Nat) :
    FixedString.cut n (letters count) = letters (min (FixedString.limit n) count) := by
  rw [FixedString.cut, FixedString.kept, letters, String.toList_ofList,
    Text.Utf8.fitting_replicate (by decide), letters]

/-- Settings that exempt one user, whose name takes all the bytes there are. -/
def oneListed : ClientAuthSettings :=
  { mode := .require, usersToSkip := ⟨[letters 255]⟩ }

/-- A user whose name has one byte more. -/
def oneLonger : Connection :=
  { user := letters 256 }

theorem precheck_oneLonger : precheck oneListed oneLonger = .queue := by
  rw [precheck_eq_queue_iff]
  simp [oneListed, oneLonger, letters_inj, SkipList.empty]

theorem cut_oneLonger :
    FixedString.cut connectionFieldCapacity oneLonger.user = letters 255 :=
  cut_letters connectionFieldCapacity 256

/-- The longer name queues at first and its copy does not, so the worker accepts it. -/
theorem copy_queues_iff_oneLonger :
    precheck oneListed oneLonger = .queue ∧
      precheck oneListed (SharedConnection.zero.store oneLonger).load ≠ .queue ∧
      ∀ w : Shift, (Shift.decide oneListed
        ⟨1, (SharedConnection.zero.store oneLonger).load, 0⟩ w).1 = .done none := by
  obtain ⟨hiff, -, haccept⟩ := copy_queues_iff precheck_oneLonger .zero
  have hq : precheck oneListed (SharedConnection.zero.store oneLonger).load ≠ .queue := by
    intro hq
    have h := (hiff.mp hq).1
    rw [cut_oneLonger] at h
    simp [oneListed] at h
  exact ⟨precheck_oneLonger, hq, fun w => haccept w 1 0 hq⟩

/-- The worker finds a user on the list whom the client did not find there. -/
theorem precheck_copy_of_longer_name :
    ¬ ∀ (s : ClientAuthSettings) (c : Connection) (old : SharedConnection),
      precheck s c = .queue → precheck s (old.store c).load = .queue := by
  intro h
  have hq := h oneListed oneLonger .zero precheck_oneLonger
  rw [SharedConnection.load_store, precheck_eq_queue_iff] at hq
  have hu : oneLonger.cut.user = letters 255 := cut_oneLonger
  rw [hu] at hq
  simp [oneListed] at hq

end Admission
