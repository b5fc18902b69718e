import Admission.Sync.LockWord

set_option autoImplicit false

/-!
# Who holds a lock

A lock word is written in three ways: as the process id alone by who finds the lock free
at once, with the highest bit besides by who waited for it or took it over, and with
that bit added by who waits.  All of them name the same process, and a guard is given
out only while that process is gone.
-/

namespace Admission

namespace Processes

variable {ps : Processes} {pid : Pid}

@[simp] theorem isAlive_zero (ps : Processes) : ps.isAlive 0 = false := by
  rw [isAlive, bne_self_eq_false, Bool.false_and, Bool.false_and]

theorem toNat_lt_of_isAlive (h : ps.isAlive pid = true) : pid.toNat < 0x80000000 := by
  simp only [isAlive, Bool.and_eq_true, decide_eq_true_eq] at h
  exact h.1.2

end Processes

namespace LockWord

variable {l now : LockWord} {ps : Processes}

/-! ## The process in a word -/

theorem toNat_holder (l : LockWord) : l.holder.toNat = l.word.toNat % 0x80000000 := by
  rw [holder, UInt32.toNat_and]
  exact Nat.and_two_pow_sub_one_eq_mod l.word.toNat 31

/-- A process id that fits is read as it was written. -/
theorem holder_mk {pid : Pid} (h : pid.toNat < 0x80000000) : (LockWord.mk pid).holder = pid := by
  rw [← UInt32.toNat_inj, toNat_holder]
  exact Nat.mod_eq_of_lt h

/-- The bit for those who wait is no part of the holder. -/
theorem holder_contended (word : UInt32) :
    (LockWord.mk (word ||| contendedBit)).holder = (LockWord.mk word).holder := by
  have hor : (word.toNat ||| contendedBit.toNat) % 0x80000000 =
      word.toNat % 0x80000000 ||| contendedBit.toNat % 0x80000000 := Nat.or_mod_two_pow (n := 31)
  have hbit : contendedBit.toNat % 0x80000000 = 0 := rfl
  rw [← UInt32.toNat_inj, toNat_holder, toNat_holder, UInt32.toNat_or, hor, hbit, Nat.or_zero]

@[simp] theorem holder_awaited (l : LockWord) : l.awaited.holder = l.holder :=
  holder_contended l.word

theorem holder_of_word_eq_zero (h : l.word = 0) : l.holder = 0 := by
  rw [holder, h]
  rfl

theorem word_ne_zero_of_isAlive (h : ps.isAlive l.holder = true) : l.word ≠ 0 := by
  intro hfree
  rw [holder_of_word_eq_zero hfree, Processes.isAlive_zero] at h
  cases h

/-! ## What an attempt comes to -/

namespace Attempt

/-- The word that the caller has put in, if it got the lock. -/
def now? : Attempt → Option LockWord
  | taken now => some now
  | recovered _ now => some now
  | waits => none

/-- The attempt is decided by whether the holder lives, and to get the lock is to be named
by it. -/
structure Fair (l : LockWord) (ps : Processes) (a : Attempt) : Prop where
  waits_iff : a.now? = none ↔ ps.isAlive l.holder = true
  holder_eq : ∀ now : LockWord, a.now? = some now → now.holder = (LockWord.mk ps.self).holder

theorem fair_taken (h : l.word = 0) (hnow : now.holder = (LockWord.mk ps.self).holder) :
    (taken now).Fair l ps where
  waits_iff := by
    rw [holder_of_word_eq_zero h, Processes.isAlive_zero, now?]
    simp
  holder_eq := by
    rintro _ ⟨⟩
    exact hnow

end Attempt

theorem fair_attempt (l : LockWord) (ps : Processes) : (l.attempt ps).Fair l ps := by
  by_cases hfree : l.word = 0
  · rw [attempt, if_pos hfree]
    exact Attempt.fair_taken hfree rfl
  · rw [attempt, if_neg hfree]
    cases halive : ps.isAlive l.holder with
    | true => exact ⟨by simp [Attempt.now?, halive], fun _ hnow => by cases hnow⟩
    | false =>
      refine ⟨by simp [Attempt.now?, halive], ?_⟩
      rintro _ ⟨⟩
      exact holder_contended ps.self

theorem fair_attemptAgain (l : LockWord) (ps : Processes) : (l.attemptAgain ps).Fair l ps := by
  rw [attemptAgain]
  split
  case isTrue hfree => exact Attempt.fair_taken hfree (holder_contended ps.self)
  case isFalse => exact fair_attempt l ps

end LockWord

namespace GuardedLock

variable {g g' : GuardedLock} {ps : Processes} {lines : List LogLine}

/-- The caller has got the lock from nobody, or from a process that is gone. -/
structure Taken (ps : Processes) (g g' : GuardedLock) : Prop where
  vacant : ps.isAlive g.lock.holder = false
  holder_eq : g'.lock.holder = ps.self
  guards_eq : g'.guards = g.guards + 1

theorem granted?_eq_none_iff {a : LockWord.Attempt} (ha : a.Fair g.lock ps) :
    g.granted? a = none ↔ ps.isAlive g.lock.holder = true := by
  rw [← ha.waits_iff]
  cases a <;> simp [granted?, LockWord.Attempt.now?]

theorem taken_of_granted? {a : LockWord.Attempt} (ha : a.Fair g.lock ps)
    (hself : ps.self.toNat < 0x80000000) (h : g.granted? a = some (g', lines)) :
    Taken ps g g' := by
  have hvacant : ps.isAlive g.lock.holder = false := by
    rw [← Bool.not_eq_true, ← granted?_eq_none_iff ha, h]
    exact Option.some_ne_none _
  have hnow : a.now? = some g'.lock ∧ g'.guards = g.guards + 1 := by
    cases a <;> cases h <;> exact ⟨rfl, rfl⟩
  exact ⟨hvacant, (ha.holder_eq _ hnow.1).trans (LockWord.holder_mk hself), hnow.2⟩

theorem tryLock?_eq_none_iff : g.tryLock? ps = none ↔ g.lock.word ≠ 0 := by
  rw [tryLock?, Option.map_eq_none_iff, LockWord.tryLock?]
  split <;> simp_all

theorem taken_of_tryLock? (hself : ps.self.toNat < 0x80000000)
    (h : g.tryLock? ps = some g') : Taken ps g g' := by
  obtain ⟨now, hnow, rfl⟩ := Option.map_eq_some_iff.mp h
  rw [LockWord.tryLock?] at hnow
  split at hnow
  case isTrue hfree =>
    cases hnow
    refine ⟨?_, LockWord.holder_mk hself, rfl⟩
    rw [LockWord.holder_of_word_eq_zero hfree, Processes.isAlive_zero]
  case isFalse => cases hnow

/-! ## Giving back -/

/-- Drop guards one after another, as far as there are any. -/
def dropping : Nat → GuardedLock → GuardedLock
  | 0, g => g
  | count + 1, g => dropping count (g.drop?.getD g)

/-- What a panic leaves: on its way out all guards are dropped. -/
def unwound (g : GuardedLock) : GuardedLock :=
  dropping g.guards g

theorem drop?_of_pos (h : 0 < g.guards) : g.drop? = some ⟨.free, g.guards - 1⟩ := by
  rw [drop?, if_neg (by omega), LockWord.unlock]

theorem dropping_eq (count : Nat) (hlock : g.lock = .free) (h : g.guards = count) :
    dropping count g = ⟨.free, 0⟩ := by
  induction count generalizing g with
  | zero => cases g; simp_all [dropping]
  | succ count ih =>
    rw [dropping, drop?_of_pos (by omega)]
    exact ih rfl (by simp only [Option.getD_some]; omega)

theorem unwound_of_pos (h : 0 < g.guards) : g.unwound = ⟨.free, 0⟩ := by
  obtain ⟨count, hcount⟩ := Nat.exists_eq_succ_of_ne_zero (Nat.ne_of_gt h)
  rw [unwound, hcount, dropping, drop?_of_pos h]
  exact dropping_eq count rfl (by simp only [Option.getD_some]; omega)

theorem unwound_of_none (h : g.guards = 0) : g.unwound = g := by
  rw [unwound, h, dropping]

end GuardedLock

end Admission
