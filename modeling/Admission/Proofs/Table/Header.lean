import Admission.Proofs.Table.Segments

set_option autoImplicit false

/-!
# The headers of tables

To open a table changes no header but that of a segment nobody has initialized, and
to claim or release a pool changes no more of the headers than whom they record as the
owner.
-/

namespace Admission

/-- Counts that a table can have are recorded in full. -/
theorem Header.layout_fresh {l : Layout} (h : l.Valid) : (fresh l).layout = l := by
  obtain ⟨-, hle, hmax⟩ := h
  have hslots : l.slots < 2 ^ 32 := Nat.lt_of_le_of_lt hmax (by decide)
  have hworkers : l.workers < 2 ^ 32 := Nat.lt_of_le_of_lt hle hslots
  show (⟨l.slots.toUInt32.toNat, l.workers.toUInt32.toNat⟩ : Layout) = l
  rw [UInt32.toNat_ofNat_of_lt' hslots, UInt32.toNat_ofNat_of_lt' hworkers]

/-- The second header is the first one but for the owner of the pool. -/
def Header.SameTable (h h' : Header) : Prop :=
  h' = { h with poolOwner := h'.poolOwner }

namespace Header.SameTable

variable {h h' h'' : Header}

theorem refl (h : Header) : h.SameTable h := rfl

theorem trans (hfirst : h.SameTable h') (hnext : h'.SameTable h'') : h.SameTable h'' := by
  rw [SameTable, hnext, hfirst]

theorem readiness_eq (hsame : h.SameTable h') : h'.readiness = h.readiness := by
  rw [hsame]
  rfl

theorem isTable_eq (hsame : h.SameTable h') : h'.isTable = h.isTable := by
  rw [hsame]
  rfl

theorem layout_eq (hsame : h.SameTable h') : h'.layout = h.layout := by
  rw [hsame]
  rfl

end Header.SameTable

namespace Memory

/-- The header of the segment of this number. -/
def header (m : Memory) (n : Nat) : Header :=
  (m.region n).header

theorem header_of_le {m : Memory} {n : Nat} (h : m.segments.length ≤ n) : m.header n = {} := by
  rw [header, region, segment_of_le h]
  rfl

/-- Only a segment that there is can have a header that was written. -/
theorem lt_of_ready {m : Memory} {n : Nat} (h : (m.header n).readiness = .ready) :
    n < m.segments.length := by
  refine Nat.lt_of_not_le fun hn => ?_
  rw [header_of_le hn] at h
  cases h

theorem header_setSegment {m : Memory} {n : Nat} (h : n < m.segments.length) (s : Segment)
    (k : Nat) : (m.setSegment n s).header k = if k = n then s.region.header else m.header k := by
  rw [header, region, segment_setSegment h]
  split <;> rfl

theorem header_setRegion {m : Memory} {n : Nat} (h : n < m.segments.length) (r : Region)
    (k : Nat) : (m.setRegion n r).header k = if k = n then r.header else m.header k :=
  header_setSegment h _ k

/-- A new segment has the header that any number without a segment stands for. -/
theorem header_push (m : Memory) (size : Nat) (k : Nat) :
    (m.push { size := size }).2.header k = m.header k := by
  rw [header, region, segment_push]
  by_cases hk : k = m.segments.length
  · rw [if_pos hk, hk, header_of_le (Nat.le_refl _)]
    rfl
  · rw [if_neg hk]
    rfl

theorem header_findOrMake (m : Memory) (key : String) (k : Nat) :
    (m.findOrMake key).2.header k = m.header k := by
  unfold findOrMake
  split
  · rfl
  · exact header_push m 0 k

/-- A segment of another size has the same header. -/
theorem header_resize (m : Memory) (n size : Nat) (k : Nat) :
    (m.setSegment n { m.segment n with size := size }).header k = m.header k := by
  by_cases hn : n < m.segments.length
  · rw [header_setSegment hn]
    split
    · next h => rw [h]; rfl
    · rfl
  · rw [setSegment_of_le (Nat.le_of_not_lt hn)]

theorem header_openOrCreate (m : Memory) (name : String) (size : Nat) (k : Nat) :
    (m.openOrCreate name size).2.header k = m.header k := by
  unfold openOrCreate
  split
  · rfl
  · split
    · rfl
    · rfl
    · next key _ =>
      have hfound := header_findOrMake m key k
      dsimp only
      generalize m.findOrMake key = found at *
      obtain ⟨n, m'⟩ := found
      split
      · exact hfound
      · split
        · exact hfound
        · exact (header_resize m' n size k).trans hfound

theorem header_anonymous (m : Memory) (size : Nat) (k : Nat) :
    (m.anonymous size).2.header k = m.header k := by
  unfold anonymous
  split
  · rfl
  · exact header_push m size k

/-- Headers that were written are what they were; any other may be that of a fresh table
by now. -/
def Prepared (l : Layout) (before after : Memory) : Prop :=
  ∀ k : Nat, after.header k = before.header k ∨
    (before.header k).readiness = .untouched ∧ after.header k = .fresh l

namespace Prepared

variable {l : Layout} {m m' m'' : Memory} {k : Nat}

theorem of_eq (h : ∀ k : Nat, m'.header k = m.header k) : Prepared l m m' :=
  fun k => .inl (h k)

theorem trans_eq (h : ∀ k : Nat, m'.header k = m.header k) (h' : Prepared l m' m'') :
    Prepared l m m'' := by
  intro k
  obtain hsame | ⟨huntouched, hfresh⟩ := h' k
  · exact .inl (hsame.trans (h k))
  · exact .inr ⟨h k ▸ huntouched, hfresh⟩

theorem header_eq (h : Prepared l m m') (hk : (m.header k).readiness ≠ .untouched) :
    m'.header k = m.header k :=
  (h k).resolve_right fun hfresh => hk hfresh.1

end Prepared

/-- A table of this layout is found under the name, in the segment of this number. -/
structure Offers (m : Memory) (name : String) (l : Layout) (n : Nat) : Prop where
  flawless : nameFlaw? name = none
  found : ∃ key : String, Place.ofName name = .file key ∧ m.names.get? key = some n
  size_eq : (m.segment n).size = Segment.tableSize
  ready : (m.header n).readiness = .ready
  isTable : (m.header n).isTable = true
  layout_eq : (m.header n).layout = l

/-- What is offered still is, as long as its name lasts and its segment is that of the same
table. -/
theorem Offers.mono {m m' : Memory} {name : String} {l : Layout} {n : Nat}
    (h : m.Offers name l n)
    (hnames : ∀ key : String, m.names.get? key = some n → m'.names.get? key = some n)
    (hsize : (m'.segment n).size = (m.segment n).size)
    (htable : (m.header n).SameTable (m'.header n)) : m'.Offers name l n where
  flawless := h.flawless
  found := by
    obtain ⟨key, hplace, hkey⟩ := h.found
    exact ⟨key, hplace, hnames key hkey⟩
  size_eq := hsize.trans h.size_eq
  ready := htable.readiness_eq.trans h.ready
  isTable := htable.isTable_eq.trans h.isTable
  layout_eq := htable.layout_eq.trans h.layout_eq

/-- What is offered is mapped as it is. -/
theorem Offers.openOrCreate_eq {m : Memory} {name : String} {l : Layout} {n : Nat}
    (h : m.Offers name l n) :
    m.openOrCreate name Segment.tableSize = (.ok (⟨n, Segment.tableSize, name⟩, false), m) := by
  obtain ⟨key, hplace, hkey⟩ := h.found
  have hmake : m.findOrMake key = (n, m) := by rw [findOrMake, hkey]
  have hself : m.setSegment n { m.segment n with size := Segment.tableSize } = m := by
    rw [← h.size_eq]
    exact m.setSegment_self n
  rw [openOrCreate, h.flawless, hplace]
  dsimp only
  rw [hmake]
  dsimp only
  rw [hself, h.size_eq]
  rfl

end Memory

namespace SlotTable

variable {m : Memory} {l : Layout}

theorem checkHeader_eq_ok_iff {h : Header} {name : String} :
    checkHeader h name = .ok () ↔ h.readiness = .ready ∧ h.isTable = true := by
  unfold checkHeader
  split
  · next hready => simp [hready]
  · next hready =>
    simp only [ne_eq, Decidable.not_not] at hready
    split
    · next htable => simp [hready, htable]
    · next htable => simp [htable]

/-- What opening a table leaves: headers that were written stay, and a table that was
opened has this layout and is ready. -/
structure Opens (l : Layout) (m : Memory) (opened : Opened) : Prop where
  prepared : m.Prepared l opened.memory
  table : ∀ t : SlotTable, opened.result = .ok t →
    t.layout = l ∧ (opened.memory.header t.segment).readiness = .ready

theorem opens_refused (e : PoolError) {m' : Memory} (h : m.Prepared l m') (log : List LogLine) :
    Opens l m (refused e m' log) where
  prepared := h
  table _ ht := by cases ht

theorem opens_settle (map : Mapping) (log : List LogLine) : Opens l m (settle m map l log) := by
  have hprepared : m.Prepared l
      (if (m.region map.segment).header.readiness = .untouched then
        m.setRegion map.segment ((m.region map.segment).madeReady l) else m) := by
    split
    · next huntouched =>
      by_cases hn : map.segment < m.segments.length
      · intro k
        rw [Memory.header_setRegion hn]
        split
        · next hk => exact .inr ⟨hk ▸ huntouched, rfl⟩
        · exact .inl rfl
      · rw [Memory.setRegion, Memory.setSegment_of_le (Nat.le_of_not_lt hn)]
        exact .of_eq fun _ => rfl
    · exact .of_eq fun _ => rfl
  unfold settle
  dsimp only
  generalize (if (m.region map.segment).header.readiness = .untouched then
    m.setRegion map.segment ((m.region map.segment).madeReady l) else m) = m' at *
  generalize (if (m.region map.segment).header.readiness = .untouched then _ else log) = lines
  split
  · exact opens_refused _ hprepared _
  · next hcheck =>
    split
    · refine ⟨hprepared, fun t ht => ?_⟩
      cases ht
      exact ⟨rfl, (checkHeader_eq_ok_iff.mp hcheck).1⟩
    · exact opens_refused _ hprepared _

theorem opens_attach (m : Memory) (name : String) (l : Layout) : Opens l m (attach m name l) := by
  unfold attach
  split
  · have hheader := m.header_anonymous Segment.tableSize
    generalize m.anonymous Segment.tableSize = result at *
    obtain ⟨e | map, m'⟩ := result
    · exact opens_refused _ (.of_eq hheader) _
    · have hsettle := opens_settle (m := m') (l := l) map []
      exact ⟨.trans_eq hheader hsettle.prepared, hsettle.table⟩
  · have hheader := m.header_openOrCreate name Segment.tableSize
    generalize m.openOrCreate name Segment.tableSize = result at *
    obtain ⟨e | ⟨map, created⟩, m'⟩ := result
    · exact opens_refused _ (.of_eq hheader) _
    · have hsettle := opens_settle (m := m') (l := l) map
        (if created then [⟨.debug, s!"[SLOTS] Created table segment {name} ({map.size} bytes)"⟩]
          else [])
      exact ⟨.trans_eq hheader hsettle.prepared, hsettle.table⟩

/-- In a table that is ready nothing is left to do but to compare the layouts. -/
theorem settle_of_ready {map : Mapping} (hready : (m.header map.segment).readiness = .ready)
    (htable : (m.header map.segment).isTable = true) (log : List LogLine) :
    settle m map l log =
      if (m.header map.segment).layout = l then ⟨.ok ⟨map.segment, map.name, l⟩, m, log⟩
      else refused (.layoutMismatch l (m.header map.segment).layout) m log := by
  have hcheck : checkHeader (m.region map.segment).header map.name = .ok () :=
    checkHeader_eq_ok_iff.mpr ⟨hready, htable⟩
  have htouched : (m.region map.segment).header.readiness ≠ .untouched := by
    rw [show (m.region map.segment).header.readiness = .ready from hready]
    nofun
  unfold settle
  simp only [if_neg htouched, hcheck]
  rfl

/-- An untouched segment becomes a table of the layout that is wanted. -/
theorem settle_of_untouched {map : Mapping} (hn : map.segment < m.segments.length)
    (huntouched : (m.header map.segment).readiness = .untouched) (hl : l.Valid)
    (log : List LogLine) :
    ∃ log' : List LogLine, settle m map l log =
      ⟨.ok ⟨map.segment, map.name, l⟩,
        m.setRegion map.segment ((m.region map.segment).madeReady l), log'⟩ := by
  have hheader : ((m.setRegion map.segment ((m.region map.segment).madeReady l)).region
      map.segment).header = .fresh l := by
    rw [Memory.region_setRegion hn]
    rfl
  have hcheck : checkHeader (.fresh l) map.name = .ok () := checkHeader_eq_ok_iff.mpr ⟨rfl, rfl⟩
  unfold settle
  simp only [show (m.region map.segment).header.readiness = .untouched from huntouched, if_true,
    hheader, hcheck, Header.layout_fresh hl]
  exact ⟨_, rfl⟩

/-- A table that is offered is opened for those who want its layout and refused to all
others, and either way it is left alone. -/
theorem attach_of_offers {name : String} {n : Nat} (h : m.Offers name l n) (wanted : Layout) :
    attach m name wanted =
      if l = wanted then ⟨.ok ⟨n, name, wanted⟩, m, []⟩
      else refused (.layoutMismatch wanted l) m [] := by
  have hnamed : name ≠ "" := by
    rintro rfl
    exact absurd h.flawless (by decide)
  unfold attach
  rw [if_neg hnamed, h.openOrCreate_eq]
  dsimp only
  rw [settle_of_ready h.ready h.isTable, h.layout_eq]
  rfl

end SlotTable

/-! ## Owners -/

namespace Host

/-- The owner that the header of a segment records. -/
def ownerOf (h : Host) (n : Nat) : Pid :=
  (h.memory.header n).poolOwner

/-- The second host is the first one with this owner of the pool of a table, for all that
headers, names and sizes of segments tell. -/
structure OwnedBy (before : Host) (t : SlotTable) (owner : Pid) (after : Host) : Prop where
  processes_eq : after.processes = before.processes
  names_eq : after.memory.names = before.memory.names
  size_eq : ∀ k : Nat, (after.memory.segment k).size = (before.memory.segment k).size
  header_eq : ∀ k : Nat, after.memory.header k =
    if k = t.segment then { before.memory.header k with poolOwner := owner }
    else before.memory.header k

namespace OwnedBy

variable {h h' : Host} {t : SlotTable} {owner : Pid}

theorem ownerOf_eq (hown : h.OwnedBy t owner h') (k : Nat) :
    h'.ownerOf k = if k = t.segment then owner else h.ownerOf k := by
  rw [ownerOf, hown.header_eq]
  split <;> rfl

theorem ownerOf_self (hown : h.OwnedBy t owner h') : h'.ownerOf t.segment = owner := by
  rw [hown.ownerOf_eq, if_pos rfl]

theorem ownerOf_of_ne (hown : h.OwnedBy t owner h') {k : Nat} (hk : k ≠ t.segment) :
    h'.ownerOf k = h.ownerOf k := by
  rw [hown.ownerOf_eq, if_neg hk]

theorem sameTable (hown : h.OwnedBy t owner h') (k : Nat) :
    (h.memory.header k).SameTable (h'.memory.header k) := by
  rw [hown.header_eq]
  split
  · exact rfl
  · exact .refl _

theorem readiness_eq (hown : h.OwnedBy t owner h') (k : Nat) :
    (h'.memory.header k).readiness = (h.memory.header k).readiness :=
  (hown.sameTable k).readiness_eq

theorem trans {h'' : Host} {next : Pid} (hown : h.OwnedBy t owner h')
    (hnext : h'.OwnedBy t next h'') : h.OwnedBy t next h'' where
  processes_eq := hnext.processes_eq.trans hown.processes_eq
  names_eq := hnext.names_eq.trans hown.names_eq
  size_eq k := (hnext.size_eq k).trans (hown.size_eq k)
  header_eq k := by
    rw [hnext.header_eq, hown.header_eq]
    split <;> rfl

theorem say (hown : h.OwnedBy t owner h') (lines : List LogLine) :
    h.OwnedBy t owner (h'.say lines) :=
  ⟨hown.processes_eq, hown.names_eq, hown.size_eq, hown.header_eq⟩

/-- What was offered still is. -/
theorem offers (hown : h.OwnedBy t owner h') {name : String} {l : Layout} {n : Nat}
    (hoffers : h.memory.Offers name l n) : h'.memory.Offers name l n := by
  refine hoffers.mono (fun key hkey => ?_) (hown.size_eq n) (hown.sameTable n)
  rw [hown.names_eq]
  exact hkey

end OwnedBy

variable {h : Host} {t : SlotTable}

theorem ownedBy_setRegion (hready : (h.memory.header t.segment).readiness = .ready)
    (owner : Pid) :
    h.OwnedBy t owner (h.setRegion t
      { h.region t with header := { (h.region t).header with poolOwner := owner } }) where
  processes_eq := rfl
  names_eq := rfl
  size_eq k := by
    have ht := Memory.lt_of_ready hready
    by_cases hk : k = t.segment
    · simp [setRegion, Memory.setRegion, Memory.setSegment, Memory.segment, hk, ht]
    · simp [setRegion, Memory.setRegion, Memory.setSegment, Memory.segment, Ne.symm hk]
  header_eq k := by
    show (h.memory.setRegion _ _).header k = _
    rw [Memory.header_setRegion (Memory.lt_of_ready hready)]
    split
    · next hk => rw [hk]; rfl
    · rfl

/-- As long as the owner runs, a claim is refused and no header changes. -/
theorem claimPool_of_alive (hready : (h.memory.header t.segment).readiness = .ready)
    (halive : h.processes.isAlive (h.ownerOf t.segment) = true) :
    (h.claimPool t).1 = .refused (h.ownerOf t.segment) ∧
      h.OwnedBy t (h.ownerOf t.segment) (h.claimPool t).2 := by
  have hclaim : SlotTable.claimPool h.processes (h.region t).header =
      (.refused (h.ownerOf t.segment), (h.region t).header) := by
    rw [SlotTable.claimPool, show (h.region t).header.poolOwner = h.ownerOf t.segment from rfl,
      if_pos halive]
  rw [claimPool, hclaim]
  exact ⟨rfl, (ownedBy_setRegion hready _).say _⟩

/-- Otherwise the caller becomes the owner. -/
theorem claimPool_of_dead (hready : (h.memory.header t.segment).readiness = .ready)
    (hdead : h.processes.isAlive (h.ownerOf t.segment) = false) :
    (∀ owner : Pid, (h.claimPool t).1 ≠ .refused owner) ∧
      h.OwnedBy t h.processes.self (h.claimPool t).2 := by
  have hclaim : SlotTable.claimPool h.processes (h.region t).header =
      (if h.ownerOf t.segment = 0 then .owned else .tookOver (h.ownerOf t.segment),
        { (h.region t).header with poolOwner := h.processes.self }) := by
    rw [SlotTable.claimPool, show (h.region t).header.poolOwner = h.ownerOf t.segment from rfl,
      hdead, if_neg Bool.false_ne_true]
  rw [claimPool, hclaim]
  refine ⟨fun owner heq => ?_, (ownedBy_setRegion hready _).say _⟩
  dsimp only at heq
  split at heq
  · cases heq
  · cases heq

/-- A process that gives up a pool of its own leaves it without an owner. -/
theorem releasePool_of_own (hready : (h.memory.header t.segment).readiness = .ready)
    (hown : h.ownerOf t.segment = h.processes.self) : h.OwnedBy t 0 (h.releasePool t) := by
  have hrelease : SlotTable.releasePool h.processes (h.region t).header =
      { (h.region t).header with poolOwner := 0 } := if_pos hown
  rw [releasePool, hrelease]
  exact ownedBy_setRegion hready 0

end Host

end Admission
