import Admission.Proofs.Settings.Reload

set_option autoImplicit false

/-!
# What the check of the settings accepts

The check compares spans in whole milliseconds, but as 64-bit words, in which a span of
2^64 milliseconds and more looks like its remainder.  So the check accepts exactly the
settings that are in range up to such multiples, and the ranges it stands for exactly
where it meets no span of that length.
-/

namespace Admission

namespace Duration

/-- The milliseconds that a 64-bit word shows. -/
def shown (d : Duration) : Nat :=
  d.milliseconds % UInt64.size

theorem toNat_milliseconds64 (d : Duration) : d.milliseconds64.toNat = d.shown :=
  UInt64.toNat_ofNat'

/-- A word shows all of a span that is short enough. -/
theorem shown_of_lt {d : Duration} (h : d.milliseconds < UInt64.size) : d.shown = d.milliseconds :=
  Nat.mod_eq_of_lt h

/-- A span that a word does not show lasts half a billion years. -/
theorem le_seconds_of_long {d : Duration} (h : UInt64.size ≤ d.milliseconds) :
    18446744073709551 ≤ d.seconds.toNat := by
  have hrest := d.nanoseconds_lt
  unfold milliseconds UInt64.size at h
  omega

end Duration

namespace Settings

/-- The numbers are in their ranges, spans being measured like this, and there is a database. -/
structure Within (measure : Duration → Nat) (s : Settings) : Prop where
  slots : 1 ≤ s.clientauth.slots ∧ s.clientauth.slots ≤ 256
  workers : 1 ≤ s.clientauth.workers ∧ s.clientauth.workers ≤ s.clientauth.slots
  interval : 1 ≤ measure s.clientauth.livenessInterval ∧
    measure s.clientauth.livenessInterval ≤ 3600000
  timeout : ∀ timeout ∈ s.clientauth.requestTimeout,
    1 ≤ measure timeout ∧ measure timeout ≤ UInt32.size - 1
  database : s.clientauth.database ≠ ""

instance (measure : Duration → Nat) (s : Settings) : Decidable (s.Within measure) :=
  decidable_of_iff
    ((1 ≤ s.clientauth.slots ∧ s.clientauth.slots ≤ 256) ∧
      (1 ≤ s.clientauth.workers ∧ s.clientauth.workers ≤ s.clientauth.slots) ∧
      (1 ≤ measure s.clientauth.livenessInterval ∧
        measure s.clientauth.livenessInterval ≤ 3600000) ∧
      (∀ timeout ∈ s.clientauth.requestTimeout,
        1 ≤ measure timeout ∧ measure timeout ≤ UInt32.size - 1) ∧
      s.clientauth.database ≠ "")
    ⟨fun ⟨hslots, hworkers, hinterval, htimeout, hdatabase⟩ =>
        ⟨hslots, hworkers, hinterval, htimeout, hdatabase⟩,
      fun h => ⟨h.slots, h.workers, h.interval, h.timeout, h.database⟩⟩

/-- The spans whose ranges are checked. -/
def spans (s : Settings) : List Duration :=
  s.clientauth.livenessInterval :: s.clientauth.requestTimeout.toList

variable {s : Settings}

theorem valid_iff_within : s.Valid ↔ s.Within Duration.shown := by
  rw [valid_iff]
  simp only [Duration.toNat_milliseconds64]
  constructor
  · intro ⟨hslots, hworkers, hinterval, htimeout, hdatabase⟩
    exact ⟨hslots, hworkers, hinterval, htimeout, hdatabase⟩
  · intro h
    exact ⟨h.slots, h.workers, h.interval, h.timeout, h.database⟩

/-- Two measures that agree on the spans draw the same ranges. -/
theorem Within.congr {measure measure' : Duration → Nat} (h : s.Within measure)
    (heq : ∀ d ∈ s.spans, measure d = measure' d) : s.Within measure' := by
  have hinterval := heq _ List.mem_cons_self
  refine ⟨h.slots, h.workers, ?_, ?_, h.database⟩
  · rw [← hinterval]
    exact h.interval
  · intro timeout htimeout
    have hmem : timeout ∈ s.spans := List.mem_cons_of_mem _ (Option.mem_toList.mpr htimeout)
    rw [← heq timeout hmem]
    exact h.timeout timeout htimeout

/-- Spans that are in range are short. -/
theorem Within.milliseconds_lt (h : s.Within Duration.milliseconds) {d : Duration}
    (hd : d ∈ s.spans) : d.milliseconds < UInt64.size := by
  unfold UInt64.size
  cases hd with
  | head =>
    have hinterval := h.interval.2
    omega
  | tail _ hd =>
    have htimeout := (h.timeout d (Option.mem_toList.mp hd)).2
    unfold UInt32.size at htimeout
    omega

/-- The check accepts exactly the settings whose spans look in range as 64-bit words.  So
it accepts all settings that are in range, and it accepts no others unless a span of 2^64
milliseconds or more looks like one in range; such a span has 18446744073709551 seconds or
more. -/
theorem validate_eq_ok_iff (s : Settings) :
    (s.validate = .ok () ↔ s.Within Duration.shown) ∧
      (s.Within Duration.milliseconds → s.validate = .ok ()) ∧
      ((s.validate = .ok () ↔ s.Within Duration.milliseconds) ↔
        ¬ (s.Within Duration.shown ∧ ∃ d ∈ s.spans, UInt64.size ≤ d.milliseconds)) ∧
      (s.validate = .ok () → ¬ s.Within Duration.milliseconds →
        ∃ d ∈ s.spans, 18446744073709551 ≤ d.seconds.toNat) := by
  have hshown : s.validate = .ok () ↔ s.Within Duration.shown := valid_iff_within
  have hsound : s.Within Duration.milliseconds → s.Within Duration.shown := fun h =>
    h.congr fun d hd => (Duration.shown_of_lt (h.milliseconds_lt hd)).symm
  -- What looks in range and meets no long span is in range.
  have hlong (h : s.Within Duration.shown) (hnot : ¬ s.Within Duration.milliseconds) :
      ∃ d ∈ s.spans, UInt64.size ≤ d.milliseconds := by
    by_contra hshort
    refine hnot (h.congr fun d hd => Duration.shown_of_lt ?_)
    by_contra hlong
    exact hshort ⟨d, hd, Nat.le_of_not_lt hlong⟩
  refine ⟨hshown, fun h => hshown.mpr (hsound h), ?_, ?_⟩
  · rw [hshown]
    constructor
    · rintro hiff ⟨hwithin, d, hd, hlong⟩
      have hlt := (hiff.mp hwithin).milliseconds_lt hd
      omega
    · intro hshort
      refine ⟨fun h => ?_, hsound⟩
      by_contra hnot
      exact hshort ⟨h, hlong h hnot⟩
  · intro hvalid hnot
    obtain ⟨d, hd, hsize⟩ := hlong (hshown.mp hvalid) hnot
    exact ⟨d, hd, Duration.le_seconds_of_long hsize⟩

/-! ## An interval of half a billion years -/

/-- Settings whose liveness interval is 384 milliseconds longer than 2^64. -/
def nearlyForever : Settings :=
  { clientauth := { livenessInterval := ⟨18446744073709552, 0, by decide⟩ } }

/-- The check takes the interval for one of 384 milliseconds. -/
theorem validate_nearlyForever :
    ¬ ∀ s : Settings, s.validate = .ok () ↔ s.Within Duration.milliseconds := by
  intro hexact
  have hvalid : nearlyForever.validate = .ok () := by decide
  have hlong : ¬ nearlyForever.Within Duration.milliseconds := by decide
  exact hlong ((hexact nearlyForever).mp hvalid)

end Settings

end Admission
