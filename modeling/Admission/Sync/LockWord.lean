import Admission.Log
import Admission.Process

set_option autoImplicit false

/-!
# The lock word

A lock is one word in shared memory: zero when it is free, else the holder's
process id, with the highest bit set when others may be waiting.  A lock whose
holder has died is taken over, and the takeover is logged.
-/

namespace Admission

/-- The word of a lock. -/
structure LockWord where
  word : UInt32 := 0
  deriving DecidableEq, Repr, Inhabited

namespace LockWord

/-- The bit that says others may be waiting. -/
def contendedBit : UInt32 := 0x80000000

/-- A free lock. -/
def free : LockWord := ⟨0⟩

/-- The process the word names, 0 when it names none. -/
def holder (l : LockWord) : Pid :=
  l.word &&& 0x7FFFFFFF

/-- Whether others may be waiting. -/
def contended (l : LockWord) : Bool :=
  l.word &&& contendedBit != 0

/-- What an attempt to lock comes to. -/
inductive Attempt where
  /-- The lock was free. -/
  | taken (now : LockWord)
  /-- The holder was dead and lost the lock. -/
  | recovered (holder : Pid) (now : LockWord)
  /-- The holder lives, so the caller would wait. -/
  | waits
  deriving DecidableEq, Repr

/-- Lock, without waiting for a living holder. -/
def attempt (l : LockWord) (ps : Processes) : Attempt :=
  if l.word = 0 then .taken ⟨ps.self⟩
  else if ps.isAlive l.holder then .waits
  else .recovered l.holder ⟨ps.self ||| contendedBit⟩

/-- Lock, by one who found the lock held before.  Others may still be waiting for it,
so a free lock is taken with the bit that says so. -/
def attemptAgain (l : LockWord) (ps : Processes) : Attempt :=
  if l.word = 0 then .taken ⟨ps.self ||| contendedBit⟩ else l.attempt ps

/-- The word as somebody leaves it who waits for its holder. -/
def awaited (l : LockWord) : LockWord :=
  ⟨l.word ||| contendedBit⟩

/-- Take the lock if it is free. -/
def tryLock? (l : LockWord) (ps : Processes) : Option LockWord :=
  if l.word = 0 then some ⟨ps.self⟩ else none

/-- Give the lock back, whoever held it. -/
def unlock (_ : LockWord) : LockWord :=
  free

/-- What is logged about a takeover. -/
def recoveryLog (holder : Pid) : LogLine :=
  ⟨.warn, s!"[SLOTS] Recovered table lock from dead process {holder}"⟩

end LockWord

/-- A lock together with the guards that the calling process has on it. -/
structure GuardedLock where
  lock : LockWord := {}
  guards : Nat := 0
  deriving DecidableEq, Repr, Inhabited

namespace GuardedLock

/-- What comes of an attempt to lock: a guard, unless the caller has to wait. -/
def granted? (g : GuardedLock) : LockWord.Attempt → Option (GuardedLock × List LogLine)
  | .taken now => some (⟨now, g.guards + 1⟩, [])
  | .recovered holder now => some (⟨now, g.guards + 1⟩, [LockWord.recoveryLog holder])
  | .waits => none

/-- Lock; nothing comes of it while the holder lives. -/
def lock? (g : GuardedLock) (ps : Processes) : Option (GuardedLock × List LogLine) :=
  g.granted? (g.lock.attempt ps)

/-- Lock, after a wait. -/
def lockAgain? (g : GuardedLock) (ps : Processes) : Option (GuardedLock × List LogLine) :=
  g.granted? (g.lock.attemptAgain ps)

/-- Lock if the lock is free. -/
def tryLock? (g : GuardedLock) (ps : Processes) : Option GuardedLock :=
  (g.lock.tryLock? ps).map fun now => ⟨now, g.guards + 1⟩

/-- Drop a guard, if there is one, which unlocks. -/
def drop? (g : GuardedLock) : Option GuardedLock :=
  if g.guards = 0 then none else some ⟨g.lock.unlock, g.guards - 1⟩

end GuardedLock

end Admission
