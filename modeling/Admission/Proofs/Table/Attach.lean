import Admission.Proofs.Table.Header

set_option autoImplicit false

/-!
# Attaching to tables

To attach by a name either is refused and changes nothing, or finds a table and changes
nothing, or is the first to attach and makes a fresh table where there was none.
-/

namespace Admission

namespace Region

/-- A table as the first to attach finds it: it records the layout and has no owner, and
every slot is idle, was never claimed and knows its worker. -/
structure Fresh (l : Layout) (r : Region) : Prop where
  header_eq : r.header = .fresh l
  idle : ∀ i < l.slots, (r.slot i).isIdle = true
  generation_eq : ∀ i < l.slots, (r.slot i).generation = 0
  owner_eq : ∀ i < l.slots, (r.slot i).owner = 0
  worker_eq : ∀ i < l.slots, (r.slot i).worker.toNat = i % l.workers

theorem fresh_madeReady (r : Region) {l : Layout} (h : l.Valid) : (r.madeReady l).Fresh l where
  header_eq := rfl
  idle i hi := by rw [slot_madeReady r h hi]; rfl
  generation_eq i hi := by rw [slot_madeReady r h hi]; rfl
  owner_eq i hi := by rw [slot_madeReady r h hi]; rfl
  worker_eq i hi := by
    have hlt : i % l.workers < 2 ^ 32 :=
      Nat.lt_of_le_of_lt (Nat.mod_le _ _) (Nat.lt_of_lt_of_le hi (Nat.le_trans h.2.2 (by decide)))
    rw [slot_madeReady r h hi]
    exact UInt32.toNat_ofNat_of_lt' hlt

end Region

namespace Memory

variable {m m' : Memory} {name : String} {l : Layout} {n : Nat}

/-- Under the name there is no segment, or one without contents in which a table has
room. -/
structure Vacant (m : Memory) (name : String) : Prop where
  flawless : nameFlaw? name = none
  found : ∃ key : String, Place.ofName name = .file key ∧
    ∀ n : Nat, m.names.get? key = some n → (m.segment n).region = .zero ∧
      ((m.segment n).size = 0 ∨ (m.segment n).size = Segment.tableSize)

/-- Where there was no table, nobody has touched the segment. -/
theorem Vacant.untouched (h : m.Vacant name)
    (hfound : ∃ key : String, Place.ofName name = .file key ∧ m.names.get? key = some n) :
    (m.header n).readiness = .untouched := by
  obtain ⟨key, hplace, hkey⟩ := hfound
  obtain ⟨key', hplace', hzero⟩ := h.found
  obtain rfl : key' = key := by
    rw [hplace'] at hplace
    injection hplace
  rw [header, region, (hzero n hkey).1]
  rfl

/-- The second memory is the first one with a table of this layout made ready in a segment
that nobody had touched. -/
structure Initializes (m : Memory) (l : Layout) (n : Nat) (m' : Memory) : Prop where
  untouched : (m.header n).readiness = .untouched
  segment_eq : ∀ k : Nat, m'.segment k =
    if k = n then
      { m.segment n with size := Segment.tableSize, region := (m.region n).madeReady l }
    else m.segment k
  names_le : ∀ (key : String) (k : Nat), m.names.get? key = some k → m'.names.get? key = some k
  named : ∀ (key : String) (k : Nat), m'.names.get? key = some k → k < m'.segments.length

namespace Initializes

theorem region_self (h : m.Initializes l n m') : m'.region n = (m.region n).madeReady l := by
  rw [region, h.segment_eq, if_pos rfl]

theorem segment_of_ne (h : m.Initializes l n m') {k : Nat} (hk : k ≠ n) :
    m'.segment k = m.segment k := by
  rw [h.segment_eq, if_neg hk]

theorem header_self (h : m.Initializes l n m') : m'.header n = .fresh l := by
  rw [header, h.region_self]
  rfl

/-- Whatever somebody has touched is not the segment that is initialized. -/
theorem segment_of_touched (h : m.Initializes l n m') {k : Nat}
    (hk : (m.header k).readiness ≠ .untouched) : m'.segment k = m.segment k := by
  apply h.segment_of_ne
  rintro rfl
  exact hk h.untouched

theorem sound (h : m.Initializes l n m') (hm : m.Sound) : m'.Sound where
  named := h.named
  unsized k hk := by
    by_cases hkn : k = n
    · rw [h.segment_eq, if_pos hkn] at hk
      exact absurd hk (show Segment.tableSize ≠ 0 by decide)
    · rw [h.segment_of_ne hkn] at hk ⊢
      exact hm.unsized k hk

end Initializes

theorem Sizes.header_eq (h : m.Sizes n m') (k : Nat) : m'.header k = m.header k := by
  rw [header, region, h.segment_eq]
  by_cases hk : k = n
  · rw [if_pos hk, hk]
    rfl
  · rw [if_neg hk]
    rfl

theorem Sizes.initializes (h : m.Sizes n m') (huntouched : (m.header n).readiness = .untouched)
    (l : Layout) : m.Initializes l n (m'.setRegion n ((m'.region n).madeReady l)) where
  untouched := huntouched
  segment_eq k := by
    have hsegment : m'.segment n = { m.segment n with size := Segment.tableSize } :=
      (h.segment_eq n).trans (if_pos rfl)
    rw [setRegion, segment_setSegment h.lt, region, hsegment, h.segment_eq]
    by_cases hk : k = n
    · rw [if_pos hk, if_pos hk]
      rfl
    · rw [if_neg hk, if_neg hk, if_neg hk]
  names_le := h.names_le
  named key k hk := by
    rw [length_setRegion]
    exact h.named key k hk

namespace Maps

/-- A segment that somebody has touched is mapped as it is. -/
theorem eq_of_touched (h : m.Maps name n m') (hm : m.Sound)
    (htouched : (m.header n).readiness ≠ .untouched) : m' = m := by
  obtain hsize | hsize := h.size
  · have hzero : m.header n = {} := by
      rw [header, region, hm.unsized n hsize]
      rfl
    rw [hzero] at htouched
    exact absurd rfl htouched
  · exact h.same hsize

/-- A table that is mapped as it is was offered under the name. -/
theorem offers (h : m.Maps name n m) (hready : (m.header n).readiness = .ready)
    (htable : (m.header n).isTable = true) (hlayout : (m.header n).layout = l) :
    m.Offers name l n where
  flawless := h.flawless
  found := h.found
  size_eq := by rw [h.sizes.segment_eq, if_pos rfl]
  ready := hready
  isTable := htable
  layout_eq := hlayout

/-- The table that is made where a name leads to is offered under that name. -/
theorem offers_of_initializes {m'' : Memory} (h : m.Maps name n m')
    (hinit : m.Initializes l n m'') (hnames : m''.names = m'.names) (hl : l.Valid) :
    m''.Offers name l n where
  flawless := h.flawless
  found := by
    rw [hnames]
    exact h.found
  size_eq := by rw [hinit.segment_eq, if_pos rfl]
  ready := by rw [hinit.header_self]; rfl
  isTable := by rw [hinit.header_self]; rfl
  layout_eq := by rw [hinit.header_self, Header.layout_fresh hl]

end Maps

/-- What is mapped by its name has at least that size. -/
theorem size_le_of_openExisting {size : Nat} {map : Mapping}
    (h : m.openExisting name size = .ok map) : size ≤ (m.segment map.segment).size := by
  unfold openExisting at h
  cases hflaw : nameFlaw? name with
  | some flaw =>
    rw [hflaw] at h
    cases h
  | none =>
    rw [hflaw] at h
    dsimp only at h
    split at h
    · cases h
    · cases h
    · split at h
      · cases h
      · split at h
        · cases h
        · next hsize =>
          cases hroom : checkMappable freeAddresses size with
          | error e =>
            rw [hroom] at h
            cases h
          | ok _ =>
            rw [hroom] at h
            cases h
            exact Nat.le_of_not_lt hsize

end Memory

namespace SlotTable

open Memory

variable {m : Memory} {name : String} {l : Layout}

/-- What comes of attaching. -/
inductive Attaches (m : Memory) (name : String) (l : Layout) : Opened → Prop where
  | refused (e : PoolError) (log : List LogLine) :
    ¬ m.Vacant name → Attaches m name l (refused e m log)
  | found (n : Nat) (log : List LogLine) :
    m.Offers name l n → Attaches m name l ⟨.ok ⟨n, name, l⟩, m, log⟩
  | first (n : Nat) (m' : Memory) (log : List LogLine) :
    m.Initializes l n m' → (name ≠ "" → m'.Offers name l n) →
      Attaches m name l ⟨.ok ⟨n, name, l⟩, m', log⟩

/-- A segment that somebody has touched is left alone, and is taken only if it is a table of
the layout that is wanted. -/
theorem settle_of_touched (map : Mapping)
    (htouched : (m.header map.segment).readiness ≠ .untouched) (log : List LogLine) :
    (∃ e : PoolError, settle m map l log = refused e m log) ∨
      (m.header map.segment).readiness = .ready ∧ (m.header map.segment).isTable = true ∧
        (m.header map.segment).layout = l ∧
        settle m map l log = ⟨.ok ⟨map.segment, map.name, l⟩, m, log⟩ := by
  cases hcheck : checkHeader (m.region map.segment).header map.name with
  | error e =>
    left
    unfold settle
    simp only [if_neg (show ¬ (m.region map.segment).header.readiness = .untouched from htouched),
      hcheck]
    exact ⟨e, rfl⟩
  | ok _ =>
    obtain ⟨hready, htable⟩ := checkHeader_eq_ok_iff.mp hcheck
    rw [settle_of_ready hready htable]
    by_cases hlayout : (m.header map.segment).layout = l
    · rw [if_pos hlayout]
      exact .inr ⟨hready, htable, hlayout, rfl⟩
    · rw [if_neg hlayout]
      exact .inl ⟨_, rfl⟩

/-- A segment that has the size of a table by now becomes one if nobody touched it. -/
theorem settle_of_sizes (map : Mapping) {m' : Memory} (h : m.Sizes map.segment m')
    (huntouched : (m.header map.segment).readiness = .untouched) (hl : l.Valid)
    (log : List LogLine) :
    ∃ (m'' : Memory) (log' : List LogLine),
      settle m' map l log = ⟨.ok ⟨map.segment, map.name, l⟩, m'', log'⟩ ∧
        m.Initializes l map.segment m'' ∧ m''.names = m'.names := by
  have huntouched' : (m'.header map.segment).readiness = .untouched := by
    rw [h.header_eq]
    exact huntouched
  obtain ⟨log', hsettle⟩ := settle_of_untouched h.lt huntouched' hl log
  exact ⟨_, log', hsettle, h.initializes huntouched l, rfl⟩

/-- A table without a name is always a fresh one. -/
theorem attaches_anonymous (hm : m.Sound) (hl : l.Valid) : Attaches m "" l (attach m "" l) := by
  have huntouched : (m.header m.segments.length).readiness = .untouched := by
    rw [header_of_le (Nat.le_refl _)]
    rfl
  have hanonymous : m.anonymous Segment.tableSize =
      (.ok ⟨m.segments.length, Segment.tableSize, ""⟩,
        (m.push { size := Segment.tableSize }).2) := rfl
  obtain ⟨m', log, hsettle, hinit, -⟩ := settle_of_sizes
    ⟨m.segments.length, Segment.tableSize, ""⟩ (sizes_anonymous hm) huntouched hl []
  unfold attach
  rw [if_pos rfl, hanonymous]
  dsimp only
  rw [hsettle]
  exact .first _ _ _ hinit fun hne => absurd rfl hne

/-- What is mapped by its name is a table already, or becomes one, or is refused. -/
theorem attaches_of_maps {n : Nat} {m' : Memory} (hm : m.Sound) (hl : l.Valid)
    (hmaps : m.Maps name n m') (log : List LogLine) :
    Attaches m name l (settle m' ⟨n, Segment.tableSize, name⟩ l log) := by
  by_cases huntouched : (m.header n).readiness = .untouched
  · obtain ⟨m'', log', hsettle, hinit, hnames⟩ := settle_of_sizes
      ⟨n, Segment.tableSize, name⟩ hmaps.sizes huntouched hl log
    rw [hsettle]
    exact .first _ _ _ hinit fun _ => hmaps.offers_of_initializes hinit hnames hl
  · -- What was touched had its size before, so to map it changed nothing.
    obtain rfl := hmaps.eq_of_touched hm huntouched
    obtain ⟨e, hsettle⟩ | ⟨hready, htable, hlayout, hsettle⟩ :=
      settle_of_touched (l := l) ⟨n, Segment.tableSize, name⟩ huntouched log
    · rw [hsettle]
      exact .refused _ _ fun hvacant => huntouched (hvacant.untouched hmaps.found)
    · rw [hsettle]
      exact .found _ _ (hmaps.offers hready htable hlayout)

/-- To attach is one of the three. -/
theorem attaches (hm : m.Sound) (hl : l.Valid) (name : String) :
    Attaches m name l (attach m name l) := by
  by_cases hname : name = ""
  · rw [hname]
    exact attaches_anonymous hm hl
  · unfold attach
    rw [if_neg hname]
    obtain ⟨e, hopen, hsizes⟩ | ⟨n, created, m', hopen, hmaps⟩ := openOrCreate_cases hm name
    · rw [hopen]
      refine .refused _ _ fun hvacant => ?_
      obtain ⟨key, hplace, hvacant'⟩ := hvacant.found
      obtain ⟨n, hkey, hsized, hother⟩ := hsizes hvacant.flawless key hplace
      rcases (hvacant' n hkey).2 with hnone | htable
      · exact hsized hnone
      · exact hother htable
    · rw [hopen]
      exact attaches_of_maps hm hl hmaps _

/-- A table that is offered is opened by its name, with the layout that it records. -/
theorem openExisting_of_offers {n : Nat} (h : m.Offers name l n) (hl : l.Valid) :
    openExisting m name = .ok ⟨n, name, l⟩ := by
  obtain ⟨key, hplace, hkey⟩ := h.found
  have hmap : m.openExisting name Segment.tableSize = .ok ⟨n, Segment.tableSize, name⟩ := by
    rw [Memory.openExisting, h.flawless, hplace]
    dsimp only
    rw [hkey]
    dsimp only
    rw [h.size_eq]
    rfl
  have hcheck : checkHeader (m.region n).header name = .ok () :=
    checkHeader_eq_ok_iff.mpr ⟨h.ready, h.isTable⟩
  have hlayout : Layout.of? (m.region n).header.layout.slots (m.region n).header.layout.workers =
      .ok l := by
    rw [show (m.region n).header.layout = l from h.layout_eq]
    exact Layout.of?_eq_ok_iff.mpr ⟨rfl, hl⟩
  rw [openExisting, hmap]
  dsimp only
  rw [hcheck, hlayout]
  rfl

/-- What is opened by its name has room for a table. -/
theorem size_of_openExisting {t : SlotTable} (h : openExisting m name = .ok t) :
    Segment.tableSize ≤ (m.segment t.segment).size := by
  unfold openExisting at h
  cases hmap : m.openExisting name Segment.tableSize with
  | error e =>
    rw [hmap] at h
    cases h
  | ok map =>
    rw [hmap] at h
    dsimp only at h
    have hsegment : t.segment = map.segment := by
      cases hcheck : checkHeader (m.region map.segment).header name with
      | error e =>
        rw [hcheck] at h
        cases h
      | ok _ =>
        rw [hcheck] at h
        cases hlayout : Layout.of? (m.region map.segment).header.layout.slots
            (m.region map.segment).header.layout.workers with
        | error e =>
          rw [hlayout] at h
          cases h
        | ok l =>
          rw [hlayout] at h
          cases h
          rfl
    rw [hsegment]
    exact size_le_of_openExisting hmap

end SlotTable

end Admission
