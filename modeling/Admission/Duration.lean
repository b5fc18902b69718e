set_option autoImplicit false

/-!
# Durations

A duration is a count of whole seconds in a 64-bit word and a rest of
nanoseconds below one second.  Its length in whole milliseconds can exceed 64
bits; `milliseconds64` is the 64-bit word that range checks compare, in which
the excess is lost.  Clocks count seconds in a signed 64-bit word, so that the
longest spans fit no clock.
-/

namespace Admission

/-- A span of time. -/
structure Duration where
  /-- Whole seconds. -/
  seconds : UInt64
  /-- The rest in nanoseconds. -/
  nanoseconds : Nat
  /-- The rest is less than a second. -/
  nanoseconds_lt : nanoseconds < 1000000000
  deriving DecidableEq, Repr

namespace Duration

/-- So many milliseconds. -/
def ofMilliseconds (ms : UInt64) : Duration :=
  ⟨(ms.toNat / 1000).toUInt64, ms.toNat % 1000 * 1000000, by omega⟩

/-- Seconds and nanoseconds, where a second's worth of nanoseconds is carried over. -/
def ofParts (seconds nanoseconds : Nat) : Duration :=
  ⟨(seconds + nanoseconds / 1000000000).toUInt64, nanoseconds % 1000000000, by omega⟩

instance : Inhabited Duration := ⟨ofMilliseconds 0⟩

/-- The length in nanoseconds. -/
def length (d : Duration) : Nat :=
  d.seconds.toNat * 1000000000 + d.nanoseconds

/-- The nanoseconds that a clock can count. -/
def clockRange : Nat := 0x8000000000000000 * 1000000000

/-- How long one sleeps who asks for so long a sleep: a span that fits no clock
is refused, and then one does not sleep at all. -/
def asleep (d : Duration) : Nat :=
  if d.length < clockRange then d.length else 0

/-- The length in whole milliseconds. -/
def milliseconds (d : Duration) : Nat :=
  d.seconds.toNat * 1000 + d.nanoseconds / 1000000

/-- The length in whole milliseconds, modulo 2^64. -/
def milliseconds64 (d : Duration) : UInt64 :=
  d.milliseconds.toUInt64

end Duration

end Admission
