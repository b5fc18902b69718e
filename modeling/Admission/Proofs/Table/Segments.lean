import Admission.Host

set_option autoImplicit false

/-!
# What becomes of segments

To replace a segment leaves all others alone.  To map a segment by its name leaves all
segments alone but the one of that name, which gets the size of a table if it had none.
-/

namespace Admission.Memory

variable {m : Memory} {n k : Nat}

/-! ## Replacing one segment -/

theorem segment_setSegment (h : n < m.segments.length) (s : Segment) (k : Nat) :
    (m.setSegment n s).segment k = if k = n then s else m.segment k := by
  by_cases hk : k = n
  · simp [segment, setSegment, hk, h]
  · simp [segment, setSegment, hk, Ne.symm hk]

theorem segment_setSegment_of_ne (h : k ≠ n) (s : Segment) :
    (m.setSegment n s).segment k = m.segment k := by
  simp [segment, setSegment, Ne.symm h]

theorem segment_setRegion_of_ne (h : k ≠ n) (r : Region) :
    (m.setRegion n r).segment k = m.segment k :=
  segment_setSegment_of_ne h _

/-- A segment that is not there cannot be replaced. -/
theorem setSegment_of_le (h : m.segments.length ≤ n) (s : Segment) :
    m.setSegment n s = m := by
  rw [setSegment, List.set_eq_of_length_le h]

/-- To put a segment in its own place changes nothing. -/
theorem setSegment_self (m : Memory) (n : Nat) : m.setSegment n (m.segment n) = m := by
  by_cases hn : n < m.segments.length
  · have hsame : m.segments.set n (m.segment n) = m.segments := by
      simp [segment, hn]
    rw [setSegment, hsame]
  · exact setSegment_of_le (Nat.le_of_not_lt hn) _

@[simp] theorem length_setSegment (m : Memory) (n : Nat) (s : Segment) :
    (m.setSegment n s).segments.length = m.segments.length := by
  simp [setSegment]

/-- A number without a segment stands for one without a size. -/
theorem segment_of_le (h : m.segments.length ≤ n) : m.segment n = { size := 0 } := by
  rw [segment, List.getElem?_eq_none h]
  rfl

theorem segment_push (m : Memory) (s : Segment) (k : Nat) :
    (m.push s).2.segment k = if k = m.segments.length then s else m.segment k := by
  obtain hk | rfl | hk := Nat.lt_trichotomy k m.segments.length
  · rw [if_neg (Nat.ne_of_lt hk)]
    simp [segment, push, List.getElem?_append_left hk]
  · simp [segment, push]
  · rw [if_neg (Nat.ne_of_gt hk), segment_of_le (Nat.le_of_lt hk)]
    exact segment_of_le (by simpa [push] using Nat.succ_le_of_lt hk)

/-! ## Mapping a segment by its name -/

/-- Names stand for segments that there are, and what has no size has no contents. -/
structure Sound (m : Memory) : Prop where
  named : ∀ (key : String) (n : Nat), m.names.get? key = some n → n < m.segments.length
  unsized : ∀ n : Nat, (m.segment n).size = 0 → (m.segment n).region = .zero

theorem sound_empty : Sound {} where
  named key n h := by cases h
  unsized n _ := by rw [segment_of_le (Nat.zero_le n)]

/-- The second memory is the first one with this segment under a key, made if there was
none. -/
structure Finds (m : Memory) (key : String) (n : Nat) (m' : Memory) : Prop where
  lt : n < m'.segments.length
  length_le : m.segments.length ≤ m'.segments.length
  before : m.names.get? key = some n ∧ m' = m ∨
    m.names.get? key = none ∧ n = m.segments.length
  names_eq : ∀ other : String, m'.names.get? other =
    if other = key then some n else m.names.get? other
  segment_eq : ∀ k : Nat, m'.segment k = m.segment k

theorem finds_findOrMake (hm : m.Sound) (key : String) :
    m.Finds key (m.findOrMake key).1 (m.findOrMake key).2 := by
  cases hkey : m.names.get? key with
  | some n =>
    have hmake : m.findOrMake key = (n, m) := by rw [findOrMake, hkey]
    rw [hmake]
    refine ⟨hm.named key n hkey, Nat.le_refl _, .inl ⟨hkey, rfl⟩, fun other => ?_, fun _ => rfl⟩
    by_cases hother : other = key
    · rw [if_pos hother, hother, hkey]
    · rw [if_neg hother]
  | none =>
    have hmake : m.findOrMake key = (m.segments.length,
        { (m.push { size := 0 }).2 with names := m.names.insert key m.segments.length }) := by
      rw [findOrMake, hkey]
      rfl
    rw [hmake]
    refine ⟨?_, ?_, .inr ⟨hkey, rfl⟩, fun other => Dict.get?_insert _ _ _ _, fun k => ?_⟩
    · simp [push]
    · simp [push]
    · refine (m.segment_push { size := 0 } k).trans ?_
      by_cases hk : k = m.segments.length
      · rw [if_pos hk, hk, segment_of_le (Nat.le_refl _)]
      · rw [if_neg hk]

/-- The second memory is the first one with a segment of this number that has the size of a
table. -/
structure Sizes (m : Memory) (n : Nat) (m' : Memory) : Prop where
  lt : n < m'.segments.length
  segment_eq : ∀ k : Nat, m'.segment k =
    if k = n then { m.segment n with size := Segment.tableSize } else m.segment k
  names_le : ∀ (key : String) (k : Nat), m.names.get? key = some k → m'.names.get? key = some k
  named : ∀ (key : String) (k : Nat), m'.names.get? key = some k → k < m'.segments.length

/-- What the name leads to, or now leads to, is mapped as a table: it has the size of one or
gets it. -/
structure Maps (m : Memory) (name : String) (n : Nat) (m' : Memory) : Prop where
  sizes : m.Sizes n m'
  flawless : nameFlaw? name = none
  found : ∃ key : String, Place.ofName name = .file key ∧ m'.names.get? key = some n
  size : (m.segment n).size = 0 ∨ (m.segment n).size = Segment.tableSize
  same : (m.segment n).size = Segment.tableSize → m' = m

theorem Finds.sizes {key : String} {m' : Memory} (h : m.Finds key n m') (hm : m.Sound) :
    m.Sizes n (m'.setSegment n { m.segment n with size := Segment.tableSize }) where
  lt := by
    rw [length_setSegment]
    exact h.lt
  segment_eq k := by
    rw [segment_setSegment h.lt, h.segment_eq]
  names_le other k hk := by
    refine (h.names_eq other).trans ?_
    by_cases hother : other = key
    · rw [if_pos hother]
      obtain ⟨hkey, -⟩ | ⟨hkey, -⟩ := h.before
      · rw [← hk, hother, hkey]
      · rw [hother, hkey] at hk
        cases hk
    · rw [if_neg hother]
      exact hk
  named other k hk := by
    rw [length_setSegment]
    replace hk := (h.names_eq other).symm.trans hk
    by_cases hother : other = key
    · rw [if_pos hother] at hk
      cases hk
      exact h.lt
    · rw [if_neg hother] at hk
      exact Nat.lt_of_lt_of_le (hm.named other k hk) h.length_le

theorem Finds.maps {key name : String} {m' : Memory} (h : m.Finds key n m') (hm : m.Sound)
    (hflaw : nameFlaw? name = none) (hplace : Place.ofName name = .file key)
    (hsize : (m.segment n).size = 0 ∨ (m.segment n).size = Segment.tableSize) :
    m.Maps name n (m'.setSegment n { m.segment n with size := Segment.tableSize }) where
  sizes := h.sizes hm
  flawless := hflaw
  found := ⟨key, hplace, (h.names_eq key).trans (if_pos rfl)⟩
  size := hsize
  same hsized := by
    obtain ⟨-, rfl⟩ := h.before.resolve_right fun hnone => by
      rw [hnone.2, segment_of_le (Nat.le_refl _)] at hsized
      exact absurd hsized (by decide)
    rw [← hsized]
    exact m'.setSegment_self n

/-- A segment without a name is new. -/
theorem sizes_anonymous (hm : m.Sound) :
    m.Sizes m.segments.length (m.push { size := Segment.tableSize }).2 where
  lt := by simp [push]
  segment_eq k := by
    rw [segment_push, segment_of_le (Nat.le_refl _)]
  names_le _ _ hk := hk
  named key k hk := Nat.lt_of_lt_of_le (hm.named key k hk) (by simp [push])

/-- To map a table by its name is refused and changes nothing, or it succeeds.  It does so
at least for the name of a segment that has the size of a table, or has none yet, or is not
there. -/
theorem openOrCreate_cases (hm : m.Sound) (name : String) :
    (∃ e : SegmentError, m.openOrCreate name Segment.tableSize = (.error e, m) ∧
        (nameFlaw? name = none → ∀ key : String, Place.ofName name = .file key →
          ∃ n : Nat, m.names.get? key = some n ∧ (m.segment n).size ≠ 0 ∧
            (m.segment n).size ≠ Segment.tableSize)) ∨
      ∃ (n : Nat) (created : Bool) (m' : Memory),
        m.openOrCreate name Segment.tableSize =
          (.ok (⟨n, Segment.tableSize, name⟩, created), m') ∧ m.Maps name n m' := by
  unfold openOrCreate
  cases hflaw : nameFlaw? name with
  | some flaw => exact .inl ⟨_, rfl, by nofun⟩
  | none =>
    cases hplace : Place.ofName name with
    | nowhere => exact .inl ⟨_, rfl, by nofun⟩
    | directory => exact .inl ⟨_, rfl, by nofun⟩
    | file key =>
      have hfinds := finds_findOrMake hm key
      dsimp only
      generalize (m.findOrMake key).1 = n, (m.findOrMake key).2 = m' at hfinds
      rw [hfinds.segment_eq]
      -- What has another size cannot be new, so nothing was made for it.
      by_cases hsize : (m.segment n).size ≠ 0 ∧ (m.segment n).size ≠ Segment.tableSize
      · left
        obtain ⟨hkey, rfl⟩ := hfinds.before.resolve_right fun hnone => by
          rw [hnone.2, segment_of_le (Nat.le_refl _)] at hsize
          exact hsize.1 rfl
        rw [if_pos hsize]
        refine ⟨_, rfl, ?_⟩
        rintro - key' ⟨⟩
        exact ⟨n, hkey, hsize⟩
      · right
        rw [if_neg hsize, if_neg (by decide)]
        exact ⟨n, _, _, rfl, hfinds.maps hm hflaw hplace (by omega)⟩

end Admission.Memory
