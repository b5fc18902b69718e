set_option autoImplicit false

/-!
# Wake-up signals

A sleeper notes the signal count before it looks at its condition and sleeps
only while the count is still the same, so a signal sent in between is not
lost.  Waiting on a word works the same way: it starts only while the word has
the expected value.
-/

namespace Admission

/-- A count of the signals sent; it wraps at 32 bits. -/
structure Signal where
  sent : UInt32 := 0
  deriving DecidableEq, Repr, Inhabited

namespace Signal

/-- What a sleeper notes before it looks at its condition. -/
def prepare (s : Signal) : UInt32 :=
  s.sent

/-- Wake sleepers: one or all, the count tells no difference. -/
def send (s : Signal) : Signal :=
  ⟨s.sent + 1⟩

/-- Whether a sleeper that noted `ticket` would go to sleep. -/
def sleeps (s : Signal) (ticket : UInt32) : Bool :=
  s.sent == ticket

/-- A signal sent after the note keeps the sleeper awake. -/
theorem sleeps_send_prepare (s : Signal) : (s.send).sleeps s.prepare = false := by
  have h : s.sent + 1 ≠ s.sent := by
    intro h
    have := congrArg UInt32.toNat h
    have := s.sent.toNat_lt
    simp only [UInt32.toNat_add, UInt32.toNat_one] at *
    omega
  simp [sleeps, send, prepare, h]

end Signal

/-- How a bounded wait that nobody interrupts ends. -/
inductive WaitEnd where
  /-- The word had another value than expected. -/
  | valueChanged
  | timedOut
  deriving DecidableEq, Repr, Inhabited

/-- Wait, for a bounded time, on a word that nobody writes. -/
def waitOn (value expected : UInt32) : WaitEnd :=
  if value = expected then .timedOut else .valueChanged

end Admission
