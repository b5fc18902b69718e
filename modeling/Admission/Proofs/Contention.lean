import Admission.Proofs.LockWord
import Mathlib.Logic.Function.Basic

set_option autoImplicit false

/-!
# A lock and those who want it

Any number of processes use one lock, whatever word they find in it, and any of them
may die with it.  What holds throughout is that a guard is had by one process at most,
that the word names that process, and that it lives; all else about the lock follows.
-/

namespace Admission

/-- A lock, the guards that each process has on it, and the processes that run. -/
structure Contention where
  lock : LockWord
  guards : Pid → Nat
  living : List Pid

namespace Contention

variable {c d : Contention} {p : Pid}

/-- The processes as one of them sees them. -/
def processes (c : Contention) (p : Pid) : Processes :=
  ⟨p, c.living⟩

/-- Whether the process runs. -/
def isAlive (c : Contention) (p : Pid) : Bool :=
  (c.processes p).isAlive p

/-- The lock with the guards of one process. -/
def view (c : Contention) (p : Pid) : GuardedLock :=
  ⟨c.lock, c.guards p⟩

/-- What one process makes of the lock and its guards. -/
def put (c : Contention) (p : Pid) (g : GuardedLock) : Contention :=
  { c with lock := g.lock, guards := Function.update c.guards p g.guards }

/-- A call that locks has got the lock, or goes to sleep and says so in the word. -/
def locking (c : Contention) (p : Pid) : Option (GuardedLock × List LogLine) → Contention
  | some (g, _) => c.put p g
  | none => { c with lock := c.lock.awaited }

/-- What can happen to a lock, each in one exchange of its word; to read the holder changes
nothing. -/
inductive Act where
  | lock (p : Pid)
  /-- A call that went to sleep looks again. -/
  | lockAgain (p : Pid)
  | tryLock (p : Pid)
  | drop (p : Pid)
  /-- A panic unwinds the thread that has the guards. -/
  | unwind (p : Pid)
  | die (p : Pid)
  /-- Some process has taken the lock, and has died and left this word. -/
  | leave (l : LockWord)

/-- The process lets go of its guard, on its way or in a panic. -/
inductive Act.GivesBack (p : Pid) : Act → Prop where
  | drop : GivesBack p (.drop p)
  | unwind : GivesBack p (.unwind p)

/-- Whether it can happen: only the living act, and a word is left behind only in place of
one that names nobody who lives. -/
def Able (c : Contention) : Act → Prop
  | .lock p | .lockAgain p | .tryLock p | .drop p | .unwind p | .die p => c.isAlive p = true
  | .leave l => c.isAlive c.lock.holder = false ∧ c.isAlive l.holder = false

/-- What comes of it. -/
def after (c : Contention) : Act → Contention
  | .lock p => c.locking p ((c.view p).lock? (c.processes p))
  | .lockAgain p => c.locking p ((c.view p).lockAgain? (c.processes p))
  | .tryLock p => (((c.view p).tryLock? (c.processes p)).map (c.put p)).getD c
  | .drop p => ((c.view p).drop?.map (c.put p)).getD c
  | .unwind p => c.put p (c.view p).unwound
  | .die p =>
    { c with guards := Function.update c.guards p 0, living := c.living.filter (· ≠ p) }
  | .leave l => { c with lock := l }

/-- The second state comes from the first one by acts in any order. -/
inductive Runs (c : Contention) : Contention → Prop where
  | rest : Runs c c
  | step {d : Contention} (a : Act) : Runs c d → d.Able a → Runs c (d.after a)

/-- A word is found that somebody left behind, and nobody has a guard. -/
def found (l : LockWord) (living : List Pid) : Contention :=
  ⟨l, fun _ => 0, living⟩

/-! ## Who has a guard -/

/-- The process has a guard, and rightly so. -/
structure Holds (c : Contention) (p : Pid) : Prop where
  guards_eq : c.guards p = 1
  holder_eq : c.lock.holder = p
  alive : c.isAlive p = true

theorem Holds.guards_pos (h : c.Holds p) : 0 < c.guards p := by
  rw [h.guards_eq]
  exact Nat.one_pos

/-- Nobody has a guard who does not hold the lock. -/
def Orderly (c : Contention) : Prop :=
  ∀ p, c.guards p = 0 ∨ c.Holds p

@[simp] theorem guards_put_self (c : Contention) (p : Pid) (g : GuardedLock) :
    (c.put p g).guards p = g.guards := by
  simp only [put, Function.update_self]

theorem guards_put_of_ne {q : Pid} (h : q ≠ p) (g : GuardedLock) :
    (c.put p g).guards q = c.guards q := by
  simp only [put, Function.update_of_ne h]

theorem orderly_of_none (h : ∀ p, c.guards p = 0) : c.Orderly :=
  fun p => Or.inl (h p)

namespace Orderly

theorem holds (h : c.Orderly) (hp : 0 < c.guards p) : c.Holds p :=
  (h p).resolve_left (Nat.ne_of_gt hp)

/-- While the word names nobody who lives, nobody has a guard. -/
theorem guards_of_vacant (h : c.Orderly) (hvacant : c.isAlive c.lock.holder = false) (p : Pid) :
    c.guards p = 0 := by
  refine (h p).resolve_right fun hp => ?_
  rw [hp.holder_eq, hp.alive] at hvacant
  cases hvacant

/-- While one process has a guard, no other one has. -/
theorem guards_of_ne (h : c.Orderly) (hp : 0 < c.guards p) {q : Pid} (hne : q ≠ p) :
    c.guards q = 0 := by
  refine (h q).resolve_right fun hq => hne ?_
  rw [← hq.holder_eq, (h.holds hp).holder_eq]

/-- What a word says besides its holder is of no account. -/
theorem rename (h : c.Orderly) {l : LockWord} (hholder : l.holder = c.lock.holder) :
    Orderly { c with lock := l } := by
  intro p
  refine (h p).imp id fun hp => ?_
  exact ⟨hp.guards_eq, hholder.trans hp.holder_eq, hp.alive⟩

/-- A process that gets the lock is the only one with a guard. -/
theorem take (h : c.Orderly) (hp : c.isAlive p = true) {g : GuardedLock}
    (ht : (c.view p).Taken (c.processes p) g) : (c.put p g).Holds p ∧ (c.put p g).Orderly := by
  have hnone := h.guards_of_vacant ht.vacant
  have hholds : (c.put p g).Holds p := by
    refine ⟨?_, ht.holder_eq, hp⟩
    rw [guards_put_self, ht.guards_eq, view, hnone p]
  refine ⟨hholds, fun q => ?_⟩
  by_cases hq : q = p
  · rw [hq]
    exact Or.inr hholds
  · left
    rw [guards_put_of_ne hq, hnone q]

/-- A process that does not get the lock only says that it waits. -/
theorem locking (h : c.Orderly) (hp : c.isAlive p = true) {a : LockWord.Attempt}
    (ha : a.Fair c.lock (c.processes p)) :
    (c.locking p ((c.view p).granted? a)).Orderly := by
  cases hgot : (c.view p).granted? a with
  | none => exact h.rename (LockWord.holder_awaited c.lock)
  | some got =>
    have hfits := Processes.toNat_lt_of_isAlive hp
    exact (h.take hp (GuardedLock.taken_of_granted? ha hfits hgot)).2

/-- After a process that had a guard has given it back, nobody has one. -/
theorem free (h : c.Orderly) (hp : 0 < c.guards p) : (c.put p ⟨.free, 0⟩).Orderly := by
  refine orderly_of_none fun q => ?_
  by_cases hq : q = p
  · rw [hq, guards_put_self]
  · rw [guards_put_of_ne hq, h.guards_of_ne hp hq]

end Orderly

/-- To give the only guard back frees the lock. -/
theorem Act.GivesBack.after_eq {a : Act} (h : a.GivesBack p) (hp : c.guards p = 1) :
    c.after a = c.put p ⟨.free, 0⟩ := by
  have hone : (c.view p).guards = 1 := hp
  cases h with
  | drop =>
    rw [after, GuardedLock.drop?_of_pos (by omega), hone]
    rfl
  | unwind => rw [after, GuardedLock.unwound_of_pos (by omega)]

/-- Without a guard there is nothing to give back. -/
theorem Act.GivesBack.after_eq_self {a : Act} (h : a.GivesBack p) (hp : c.guards p = 0) :
    c.after a = c := by
  cases h with
  | drop =>
    have hnone : (c.view p).drop? = none := by rw [GuardedLock.drop?, view, if_pos hp]
    rw [after, hnone, Option.map_none, Option.getD_none]
  | unwind => rw [after, GuardedLock.unwound_of_none hp, put, view, Function.update_eq_self]

/-- Only a guard that a process has is given back. -/
theorem Orderly.givesBack (h : c.Orderly) {a : Act} (ha : a.GivesBack p) :
    (c.after a).Orderly := by
  obtain hnone | hholds := h p
  · rw [ha.after_eq_self hnone]
    exact h
  · rw [ha.after_eq hholds.guards_eq]
    exact h.free hholds.guards_pos

theorem guards_die_self (c : Contention) (p : Pid) : (c.after (.die p)).guards p = 0 := by
  simp only [after, Function.update_self]

theorem guards_die_of_ne {q : Pid} (h : q ≠ p) : (c.after (.die p)).guards q = c.guards q := by
  simp only [after, Function.update_of_ne h]

/-- Nobody else dies. -/
theorem isAlive_die_of_ne {q : Pid} (hne : q ≠ p) (h : c.isAlive q = true) :
    (c.after (.die p)).isAlive q = true := by
  simp_all [isAlive, after, processes, Processes.isAlive]

/-- Every act keeps the order. -/
theorem Orderly.after (h : c.Orderly) {a : Act} (ha : c.Able a) : (c.after a).Orderly := by
  cases a with
  | lock p => exact h.locking ha (LockWord.fair_attempt c.lock _)
  | lockAgain p => exact h.locking ha (LockWord.fair_attemptAgain c.lock _)
  | tryLock p =>
    have hfits := Processes.toNat_lt_of_isAlive ha
    rw [Contention.after]
    cases htry : (c.view p).tryLock? (c.processes p) with
    | none => exact h
    | some g => exact (h.take ha (GuardedLock.taken_of_tryLock? hfits htry)).2
  | drop p => exact h.givesBack .drop
  | unwind p => exact h.givesBack .unwind
  | die p =>
    intro q
    by_cases hq : q = p
    · left
      rw [hq, guards_die_self]
    · refine (h q).imp (fun hnone => ?_) fun hholds => ⟨?_, hholds.holder_eq, ?_⟩
      · rw [guards_die_of_ne hq, hnone]
      · rw [guards_die_of_ne hq, hholds.guards_eq]
      · exact isAlive_die_of_ne hq hholds.alive
  | leave l => exact orderly_of_none (h.guards_of_vacant ha.1)

/-- Whatever has happened to the lock, it has been in order. -/
theorem Runs.orderly (h : c.Runs d) (hc : c.Orderly) : d.Orderly := by
  induction h with
  | rest => exact hc
  | step a _ ha ih => exact ih.after ha

/-! ## What a process can rely on -/

/-- The process gets no guard, in whatever way it asks. -/
structure Refuses (c : Contention) (p : Pid) : Prop where
  lock : (c.view p).lock? (c.processes p) = none
  lockAgain : (c.view p).lockAgain? (c.processes p) = none
  tryLock : (c.view p).tryLock? (c.processes p) = none

/-- While the holder lives, nobody gets the lock. -/
theorem refuses_of_isAlive (h : c.isAlive c.lock.holder = true) (p : Pid) : c.Refuses p := by
  have halive : (c.processes p).isAlive (c.view p).lock.holder = true := h
  refine ⟨?_, ?_, GuardedLock.tryLock?_eq_none_iff.mpr (LockWord.word_ne_zero_of_isAlive halive)⟩
  · exact (GuardedLock.granted?_eq_none_iff (LockWord.fair_attempt _ _)).mpr halive
  · exact (GuardedLock.granted?_eq_none_iff (LockWord.fair_attemptAgain _ _)).mpr halive

theorem Refuses.after_tryLock (h : c.Refuses p) : c.after (.tryLock p) = c := by
  rw [after, h.tryLock, Option.map_none, Option.getD_none]

/-- By the act the holder, who has a guard, gives the lock back. -/
structure Returns (c : Contention) (a : Act) : Prop where
  givesBack : a.GivesBack c.lock.holder
  guards_pos : 0 < c.guards c.lock.holder
  word_eq : (c.after a).lock.word = 0

theorem Holds.returns (h : c.Holds p) {a : Act} (ha : a.GivesBack p) : c.Returns a := by
  have hword : (c.after a).lock.word = 0 := by
    rw [ha.after_eq h.guards_eq]
    rfl
  obtain rfl := h.holder_eq
  exact ⟨ha, h.guards_pos, hword⟩

theorem Orderly.holder_givesBack (h : c.Orderly) {a : Act} (ha : a.GivesBack p) :
    (c.after a).lock.holder = c.lock.holder ∨ c.Returns a := by
  obtain hnone | hholds := h p
  · left
    rw [ha.after_eq_self hnone]
  · exact Or.inr (hholds.returns ha)

/-- A living holder keeps the lock until it gives it back itself. -/
theorem Orderly.holder_after (h : c.Orderly) {a : Act} (ha : c.Able a)
    (halive : c.isAlive c.lock.holder = true) :
    (c.after a).lock.holder = c.lock.holder ∨ c.Returns a := by
  cases a with
  | lock p =>
    left
    rw [Contention.after, (refuses_of_isAlive halive p).lock]
    exact LockWord.holder_awaited c.lock
  | lockAgain p =>
    left
    rw [Contention.after, (refuses_of_isAlive halive p).lockAgain]
    exact LockWord.holder_awaited c.lock
  | tryLock p =>
    left
    rw [(refuses_of_isAlive halive p).after_tryLock]
  | drop p => exact h.holder_givesBack .drop
  | unwind p => exact h.holder_givesBack .unwind
  | die p => exact Or.inl rfl
  | leave l =>
    have hvacant := ha.1
    rw [halive] at hvacant
    cases hvacant

/-- The lock is free, and the process has no guard on it. -/
structure Freed (c : Contention) (p : Pid) : Prop where
  word_eq : c.lock.word = 0
  guards_eq : c.guards p = 0

/-- What a process can rely on: it gets the lock without a wait exactly if nobody holds it
or its holder is gone; with a guard it is the only one, the word names it, and giving the
guard back frees the lock; and no living holder loses the lock to another process. -/
structure Recovers (c : Contention) (me : Pid) : Prop where
  locks_iff : ((c.view me).lock? (c.processes me)).isSome = true ↔
    c.lock.holder = 0 ∨ c.isAlive c.lock.holder = false
  locked : ((c.view me).lock? (c.processes me)).isSome = true → (c.after (.lock me)).Holds me
  tries_iff : ((c.view me).tryLock? (c.processes me)).isSome = true ↔ c.lock.word = 0
  tried : c.lock.word = 0 → (c.after (.tryLock me)).Holds me
  refused : c.lock.word ≠ 0 → c.after (.tryLock me) = c
  guarded : 0 < c.guards me → c.Holds me ∧ ∀ p, c.Refuses p ∧ (p ≠ me → c.guards p = 0)
  dropped : 0 < c.guards me → ∀ a : Act, a.GivesBack me → (c.after a).Freed me
  kept : ∀ a, c.Able a → c.isAlive c.lock.holder = true →
    (c.after a).lock.holder = c.lock.holder ∨ c.Returns a

/-- A process that lives can rely on this at every moment, whatever word was found at
first. -/
theorem recovers {l : LockWord} {living : List Pid} {me : Pid} (h : (found l living).Runs c)
    (hme : c.isAlive me = true) : c.Recovers me := by
  have horderly := h.orderly (orderly_of_none fun _ => rfl)
  have hfits : (c.processes me).self.toNat < 0x80000000 := Processes.toNat_lt_of_isAlive hme
  have hfair := LockWord.fair_attempt c.lock (c.processes me)
  have htries : ((c.view me).tryLock? (c.processes me)).isSome = true ↔ c.lock.word = 0 := by
    rw [Option.isSome_iff_ne_none, Ne, GuardedLock.tryLock?_eq_none_iff, not_not]
    rfl
  refine ⟨?locks, ?locked, htries, ?tried, ?refused, ?guarded, ?dropped, ?kept⟩
  case locks =>
    rw [Option.isSome_iff_ne_none, Ne, GuardedLock.lock?, GuardedLock.granted?_eq_none_iff hfair,
      Bool.not_eq_true]
    refine ⟨Or.inr, ?_⟩
    rintro (hzero | hgone)
    · exact hzero ▸ Processes.isAlive_zero _
    · exact hgone
  case locked =>
    intro hsome
    obtain ⟨⟨g, lines⟩, hlock⟩ := Option.isSome_iff_exists.mp hsome
    rw [after, hlock]
    exact (horderly.take hme (GuardedLock.taken_of_granted? hfair hfits hlock)).1
  case tried =>
    intro hfree
    obtain ⟨g, htry⟩ := Option.isSome_iff_exists.mp (htries.mpr hfree)
    rw [after, htry]
    exact (horderly.take hme (GuardedLock.taken_of_tryLock? hfits htry)).1
  case refused =>
    intro hheld
    rw [after, GuardedLock.tryLock?_eq_none_iff.mpr hheld, Option.map_none, Option.getD_none]
  case guarded =>
    intro hguard
    have hholds := horderly.holds hguard
    have halive : c.isAlive c.lock.holder = true := by rw [hholds.holder_eq, hme]
    exact ⟨hholds, fun p => ⟨refuses_of_isAlive halive p, horderly.guards_of_ne hguard⟩⟩
  case dropped =>
    intro hguard a ha
    rw [ha.after_eq (horderly.holds hguard).guards_eq]
    exact ⟨rfl, guards_put_self c me _⟩
  case kept => exact fun a ha halive => horderly.holder_after ha halive

/-- Process 7 finds a lock that the dead process 9 held and others waited for. -/
def wreck : Contention :=
  found ⟨0x80000009⟩ [7]

/-- It has taken the lock over. -/
def takenOver : Contention :=
  wreck.after (.lock 7)

theorem recovers_takenOver :
    wreck.Runs takenOver ∧ takenOver.isAlive 7 = true ∧ takenOver.guards 7 = 1 ∧
      takenOver.lock = ⟨0x80000007⟩ ∧ takenOver.Recovers 7 := by
  have hlives : wreck.isAlive 7 = true := by decide
  have hrun : wreck.Runs takenOver := Runs.rest.step (.lock 7) hlives
  exact ⟨hrun, by decide, by decide, by decide, recovers hrun (by decide)⟩

end Contention

end Admission
