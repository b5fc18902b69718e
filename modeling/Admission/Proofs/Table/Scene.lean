import Admission.Proofs.Table.Attach

set_option autoImplicit false

/-!
# Tables that many attach to

Parties attach to the tables of a machine, open them, drop their handles, and write through
the handles they have.  A table that was made stays the same table throughout, and nothing
but the writes shows in it.
-/

namespace Admission

/-! ## Writing through a handle -/

namespace Region

/-- A change to a table that leaves it the same table: anything may come into the slots, the
lock and the signals, and any owner into the header. -/
structure Change where
  apply : Region → Region
  sameTable : ∀ r : Region, r.header.SameTable (apply r).header

/-- The region after some changes, the first one first. -/
def changedBy (r : Region) (changes : List Change) : Region :=
  changes.foldl (fun r change => change.apply r) r

theorem sameTable_changedBy (r : Region) (changes : List Change) :
    r.header.SameTable (r.changedBy changes).header := by
  induction changes generalizing r with
  | nil => exact .refl _
  | cons change rest ih => exact (change.sameTable r).trans (ih (change.apply r))

end Region

namespace Host

/-- What parties do at a table: they work on a slot under the lock, look at all slots, claim or
release the pool, and send signals. -/
inductive Deed (t : SlotTable) (h : Host) : Host → Prop where
  | withSlot {α : Type} (index : Nat) (step : Slot → α × Slot) :
    Deed t h (Host.withSlot t index step h).2
  | snapshot : Deed t h (h.snapshot t).2
  | claimPool : Deed t h (h.claimPool t).2
  | releasePool : Deed t h (h.releasePool t)
  | wakeWorker (worker : Nat) : Deed t h (h.setRegion t ((h.region t).wakeWorker worker))
  | wakeAnswered (index : Nat) : Deed t h (h.setRegion t ((h.region t).wakeAnswered index))
  | wakeFreed (index : Nat) : Deed t h (h.setRegion t ((h.region t).wakeFreed index))

/-- The second host is the first one after a change to a table. -/
def Writes (t : SlotTable) (h h' : Host) : Prop :=
  ∃ change : Region.Change,
    h'.memory = h.memory.setRegion t.segment (change.apply (h.memory.region t.segment))

variable {t : SlotTable} {h h' : Host}

/-- To replace the contents by something with the header of the same table writes. -/
theorem writes_setRegion (f : Region → Region)
    (hf : ∀ r : Region, r.header.SameTable (f r).header) :
    h.Writes t (h.setRegion t (f (h.region t))) :=
  ⟨⟨f, hf⟩, rfl⟩

/-- A section under the lock that leaves the header alone writes. -/
theorem writes_locked {α : Type} (h : Host) (body : Region → α × Region)
    (hbody : ∀ r : Region, (body r).2.header = r.header) : h.Writes t (h.locked t body).2 := by
  refine ⟨⟨fun r => (body (r.locking h.processes).1).2, fun r => ?_⟩, rfl⟩
  have hlocking : (r.locking h.processes).1.header = r.header := by
    unfold Region.locking
    split <;> rfl
  rw [hbody, hlocking]
  exact .refl _

/-- Whatever parties do at a table is a change that leaves it the same table. -/
theorem Deed.writes (hdeed : h.Deed t h') : h.Writes t h' := by
  cases hdeed with
  | withSlot index step =>
    apply writes_locked
    intro r
    split <;> rfl
  | snapshot =>
    apply writes_locked
    intro r
    rfl
  | claimPool =>
    have hsame (header : Header) :
        header.SameTable (SlotTable.claimPool h.processes header).2 := by
      unfold SlotTable.claimPool
      split
      · exact .refl _
      · exact rfl
    exact writes_setRegion
      (fun r => { r with header := (SlotTable.claimPool h.processes r.header).2 })
      fun r => hsame r.header
  | releasePool =>
    have hsame (header : Header) :
        header.SameTable (SlotTable.releasePool h.processes header) := by
      unfold SlotTable.releasePool
      split
      · exact rfl
      · exact .refl _
    exact writes_setRegion
      (fun r => { r with header := SlotTable.releasePool h.processes r.header })
      fun r => hsame r.header
  | wakeWorker worker => exact writes_setRegion (·.wakeWorker worker) fun r => .refl r.header
  | wakeAnswered index => exact writes_setRegion (·.wakeAnswered index) fun r => .refl r.header
  | wakeFreed index => exact writes_setRegion (·.wakeFreed index) fun r => .refl r.header

end Host

/-! ## Scenes -/

/-- A memory with the handles that parties have on its tables. -/
structure Scene where
  memory : Memory := {}
  handles : List SlotTable := []

namespace Scene

/-- What parties do about tables.  Handles go by their place in the list. -/
inductive Act where
  | attach (name : String) (l : Layout)
  | openExisting (name : String)
  | drop (k : Nat)
  | write (k : Nat) (change : Region.Change)

/-- Whoever attaches wants a layout that a table can have. -/
def Act.Allowed : Act → Prop
  | .attach _ l => l.Valid
  | _ => True

/-- The scene after somebody tried to open a table. -/
def opened (σ : Scene) (o : Opened) : Scene :=
  ⟨o.memory, o.result.toOption.toList ++ σ.handles⟩

/-- The scene after a change to a table. -/
def written (σ : Scene) (t : SlotTable) (change : Region.Change) : Scene :=
  ⟨σ.memory.setRegion t.segment (change.apply (σ.memory.region t.segment)), σ.handles⟩

/-- Carry out an act. -/
def after (σ : Scene) : Act → Scene
  | .attach name l => σ.opened (SlotTable.attach σ.memory name l)
  | .openExisting name => σ.opened ⟨SlotTable.openExisting σ.memory name, σ.memory, []⟩
  | .drop k => ⟨σ.memory, σ.handles.eraseIdx k⟩
  | .write k change =>
    match σ.handles[k]? with
    | some t => σ.written t change
    | none => σ

/-- Carry out some acts, one after the other. -/
def run (σ : Scene) (acts : List Act) : Scene :=
  acts.foldl after σ

/-- What an act writes into the segment of this number. -/
def changes (σ : Scene) (n : Nat) : Act → List Region.Change
  | .write k change => if σ.handles[k]?.any (·.segment = n) then [change] else []
  | _ => []

/-- What some acts write into the segment of this number, in order. -/
def allChanges (n : Nat) : Scene → List Act → List Region.Change
  | _, [] => []
  | σ, act :: rest => σ.changes n act ++ allChanges n (σ.after act) rest

/-- The memory is sound, and nobody has a handle on a segment without a size. -/
structure Sound (σ : Scene) : Prop where
  memory : σ.memory.Sound
  sized : ∀ t ∈ σ.handles, (σ.memory.segment t.segment).size ≠ 0

variable {σ τ υ : Scene}

/-- Acts lead from the first scene to the second: names last, and whatever segment somebody
had touched shows these changes and nothing else. -/
structure Carries (σ : Scene) (changes : Nat → List Region.Change) (τ : Scene) : Prop where
  sound : τ.Sound
  names_le : ∀ (key : String) (n : Nat),
    σ.memory.names.get? key = some n → τ.memory.names.get? key = some n
  segment_eq : ∀ n : Nat, (σ.memory.header n).readiness ≠ .untouched → τ.memory.segment n =
    { σ.memory.segment n with region := (σ.memory.region n).changedBy (changes n) }

namespace Carries

variable {changes changes' : Nat → List Region.Change}

theorem region_eq (h : σ.Carries changes τ) {n : Nat}
    (htouched : (σ.memory.header n).readiness ≠ .untouched) :
    τ.memory.region n = (σ.memory.region n).changedBy (changes n) := by
  rw [Memory.region, h.segment_eq n htouched]

theorem sameTable (h : σ.Carries changes τ) {n : Nat}
    (htouched : (σ.memory.header n).readiness ≠ .untouched) :
    (σ.memory.header n).SameTable (τ.memory.header n) := by
  rw [Memory.header, Memory.header, h.region_eq htouched]
  exact Region.sameTable_changedBy _ _

/-- Acts that leave the memory alone. -/
theorem of_memory_eq (hσ : σ.Sound) (hmemory : τ.memory = σ.memory)
    (hsized : ∀ t ∈ τ.handles, (σ.memory.segment t.segment).size ≠ 0) :
    σ.Carries (fun _ => []) τ where
  sound := ⟨hmemory ▸ hσ.memory, fun t ht => hmemory ▸ hsized t ht⟩
  names_le key n hkey := by
    rw [hmemory]
    exact hkey
  segment_eq n _ := by
    rw [hmemory]
    rfl

theorem trans (h : σ.Carries changes τ) (h' : τ.Carries changes' υ) :
    σ.Carries (fun n => changes n ++ changes' n) υ where
  sound := h'.sound
  names_le key n hkey := h'.names_le key n (h.names_le key n hkey)
  segment_eq n htouched := by
    have htouched' : (τ.memory.header n).readiness ≠ .untouched := by
      rw [(h.sameTable htouched).readiness_eq]
      exact htouched
    rw [h'.segment_eq n htouched', h.region_eq htouched, h.segment_eq n htouched]
    simp only [Region.changedBy, List.foldl_append]

/-- A table that is offered stays so. -/
theorem offers (h : σ.Carries changes τ) {name : String} {l : Layout} {n : Nat}
    (hoffers : σ.memory.Offers name l n) : τ.memory.Offers name l n := by
  have htouched : (σ.memory.header n).readiness ≠ .untouched := by
    rw [hoffers.ready]
    nofun
  refine hoffers.mono (fun key => h.names_le key n) ?_ (h.sameTable htouched)
  rw [h.segment_eq n htouched]

end Carries

/-! ## One act -/

theorem carries_attach (hσ : σ.Sound) {l : Layout} (hl : l.Valid) (name : String) :
    σ.Carries (fun _ => []) (σ.after (.attach name l)) := by
  have hattaches := SlotTable.attaches hσ.memory hl name
  show σ.Carries (fun _ => []) (σ.opened (SlotTable.attach σ.memory name l))
  generalize SlotTable.attach σ.memory name l = opened at hattaches
  cases hattaches with
  | refused e log _ => exact .of_memory_eq hσ rfl hσ.sized
  | found n log hoffers =>
    refine .of_memory_eq hσ rfl fun t ht => ?_
    obtain rfl | ht := List.mem_cons.mp ht
    · rw [hoffers.size_eq]
      decide
    · exact hσ.sized t ht
  | first n m' log hinit _ =>
    refine ⟨⟨hinit.sound hσ.memory, fun t ht => ?_⟩, hinit.names_le, fun k htouched => ?_⟩
    · show (m'.segment t.segment).size ≠ 0
      by_cases hself : t.segment = n
      · rw [hinit.segment_eq, if_pos hself]
        show Segment.tableSize ≠ 0
        decide
      · rw [hinit.segment_of_ne hself]
        obtain rfl | ht := List.mem_cons.mp ht
        · exact absurd rfl hself
        · exact hσ.sized t ht
    · exact hinit.segment_of_touched htouched

theorem carries_openExisting (hσ : σ.Sound) (name : String) :
    σ.Carries (fun _ => []) (σ.after (.openExisting name)) := by
  refine .of_memory_eq hσ rfl fun t ht => ?_
  obtain ht | ht := List.mem_append.mp ht
  · cases hopen : SlotTable.openExisting σ.memory name with
    | error e =>
      rw [hopen] at ht
      cases ht
    | ok opened =>
      rw [hopen] at ht
      obtain rfl := List.mem_singleton.mp ht
      have hsize := SlotTable.size_of_openExisting hopen
      exact Nat.ne_of_gt (Nat.lt_of_lt_of_le (by decide) hsize)
  · exact hσ.sized t ht

theorem segment_written {t : SlotTable} (hsize : (σ.memory.segment t.segment).size ≠ 0)
    (change : Region.Change) (n : Nat) : (σ.written t change).memory.segment n =
      { σ.memory.segment n with region :=
        (σ.memory.region n).changedBy (if t.segment = n then [change] else []) } := by
  have hlt : t.segment < σ.memory.segments.length := by
    refine Nat.lt_of_not_le fun hle => hsize ?_
    rw [Memory.segment_of_le hle]
  rw [written, Memory.setRegion, Memory.segment_setSegment hlt]
  by_cases hn : n = t.segment
  · rw [if_pos hn, if_pos hn.symm, hn]
    rfl
  · rw [if_neg hn, if_neg (Ne.symm hn)]
    rfl

theorem carries_written (hσ : σ.Sound) {t : SlotTable} (ht : t ∈ σ.handles)
    (change : Region.Change) :
    σ.Carries (fun n => if t.segment = n then [change] else []) (σ.written t change) := by
  have hsize : (σ.memory.segment t.segment).size ≠ 0 := hσ.sized t ht
  have hsegment := segment_written hsize change
  refine ⟨⟨⟨?named, ?unsized⟩, ?sized⟩, fun _ _ hkey => hkey, fun n _ => hsegment n⟩
  case named =>
    intro key n hkey
    rw [written, Memory.length_setRegion]
    exact hσ.memory.named key n hkey
  case unsized =>
    intro n hn
    rw [hsegment] at hn ⊢
    have hne : t.segment ≠ n := by
      rintro rfl
      exact hsize hn
    rw [if_neg hne]
    exact hσ.memory.unsized n hn
  case sized =>
    intro t' ht'
    rw [hsegment]
    exact hσ.sized t' ht'

theorem carries_write (hσ : σ.Sound) (k : Nat) (change : Region.Change) :
    σ.Carries (fun n => σ.changes n (.write k change)) (σ.after (.write k change)) := by
  rw [after]
  simp only [changes]
  cases hk : σ.handles[k]? with
  | none => exact .of_memory_eq hσ rfl hσ.sized
  | some t =>
    simp only [Option.any_some, decide_eq_true_eq]
    exact carries_written hσ (List.mem_of_getElem? hk) change

theorem carries_after (hσ : σ.Sound) {act : Act} (hact : act.Allowed) :
    σ.Carries (fun n => σ.changes n act) (σ.after act) := by
  cases act with
  | attach name l => exact carries_attach hσ hact name
  | openExisting name => exact carries_openExisting hσ name
  | drop k =>
    exact .of_memory_eq hσ rfl fun t ht => hσ.sized t (List.mem_of_mem_eraseIdx ht)
  | write k change => exact carries_write hσ k change

/-! ## Many acts -/

/-- However many acts there are, only the changes that handles made show. -/
theorem carries_run (hσ : σ.Sound) {acts : List Act} (hacts : ∀ act ∈ acts, act.Allowed) :
    σ.Carries (fun n => allChanges n σ acts) (σ.run acts) := by
  induction acts generalizing σ with
  | nil => exact .of_memory_eq hσ rfl hσ.sized
  | cons act rest ih =>
    have hstep := carries_after hσ (hacts act List.mem_cons_self)
    exact hstep.trans (ih hstep.sound fun act' hact' => hacts act' (List.mem_cons_of_mem _ hact'))

/-- At this scene and from it on, a table is made only where there is none, and nobody who
attaches or opens disturbs one. -/
structure Undisturbed (σ : Scene) : Prop where
  first : ∀ (name : String) (l : Layout), l.Valid → σ.memory.Vacant name →
    ∃ (n : Nat) (m : Memory) (log : List LogLine),
      SlotTable.attach σ.memory name l = ⟨.ok ⟨n, name, l⟩, m, log⟩ ∧ (m.region n).Fresh l ∧
        m.Offers name l n ∧ ∀ k : Nat, k ≠ n → m.segment k = σ.memory.segment k
  settled : ∀ (name : String) (l : Layout) (n : Nat), l.Valid → σ.memory.Offers name l n →
    ∀ acts : List Act, (∀ act ∈ acts, act.Allowed) → ∀ m : Memory, (σ.run acts).memory = m →
      SlotTable.attach m name l = ⟨.ok ⟨n, name, l⟩, m, []⟩ ∧
        SlotTable.openExisting m name = .ok ⟨n, name, l⟩ ∧
        ∀ other : Layout, other ≠ l →
          SlotTable.attach m name other = ⟨.error (.layoutMismatch other l), m, []⟩
  lasting : ∀ n : Nat, (σ.memory.header n).readiness = .ready →
    ∀ acts : List Act, (∀ act ∈ acts, act.Allowed) → (σ.run acts).memory.segment n =
      { σ.memory.segment n with region := (σ.memory.region n).changedBy (allChanges n σ acts) }
  failing : ∀ (name : String) (l : Layout), l.Valid → ∀ e : PoolError,
    (SlotTable.attach σ.memory name l).result = .error e →
      (SlotTable.attach σ.memory name l).memory = σ.memory
  opening : ∀ name : String, (σ.after (.openExisting name)).memory = σ.memory
  /-- What parties do at their tables are the writes of the scene. -/
  deeds : ∀ (k : Nat) (t : SlotTable), σ.handles[k]? = some t → ∀ h h' : Host,
    h.memory = σ.memory → h.Deed t h' →
      ∃ change : Region.Change, (σ.after (.write k change)).memory = h'.memory

theorem Sound.undisturbed (hσ : σ.Sound) : σ.Undisturbed where
  first name l hl hvacant := by
    have hnamed : name ≠ "" := by
      rintro rfl
      exact absurd hvacant.flawless (by decide)
    have hattaches := SlotTable.attaches hσ.memory hl name
    generalize SlotTable.attach σ.memory name l = opened at hattaches
    cases hattaches with
    | refused e log hnot => exact absurd hvacant hnot
    | found n log hoffers =>
      have huntouched := hvacant.untouched hoffers.found
      rw [hoffers.ready] at huntouched
      cases huntouched
    | first n m log hinit hoffers =>
      refine ⟨n, m, log, rfl, ?_, hoffers hnamed, fun k hk => hinit.segment_of_ne hk⟩
      rw [hinit.region_self]
      exact Region.fresh_madeReady _ hl
  settled name l n hl hoffers acts hacts m hm := by
    subst hm
    have hlater := (carries_run hσ hacts).offers hoffers
    refine ⟨?_, SlotTable.openExisting_of_offers hlater hl, fun other hother => ?_⟩
    · rw [SlotTable.attach_of_offers hlater, if_pos rfl]
    · rw [SlotTable.attach_of_offers hlater, if_neg hother.symm]
      rfl
  lasting n hready acts hacts := by
    apply (carries_run hσ hacts).segment_eq
    rw [hready]
    nofun
  failing name l hl e herror := by
    have hattaches := SlotTable.attaches hσ.memory hl name
    generalize SlotTable.attach σ.memory name l = opened at hattaches herror
    cases hattaches with
    | refused e log _ => rfl
    | found n log _ => rfl
    | first n m log _ _ => cases herror
  opening _ := rfl
  deeds k t hk h h' hmemory hdeed := by
    obtain ⟨change, hchange⟩ := hdeed.writes
    refine ⟨change, ?_⟩
    rw [after, hk, hchange, hmemory]
    rfl

/-- Whatever was done about tables before, nobody who attaches or opens disturbs one. -/
theorem undisturbed_run {m : Memory} (hm : m.Sound) {acts : List Act}
    (hacts : ∀ act ∈ acts, act.Allowed) : (run { memory := m } acts).Undisturbed := by
  have hstart : Sound { memory := m } := ⟨hm, fun t ht => absurd ht List.not_mem_nil⟩
  exact (carries_run hstart hacts).sound.undisturbed

/-- Two parties attach to one table, of whom the first wakes its worker and goes. -/
def pair : List Act :=
  [.attach "/pool" ⟨2, 1⟩, .write 0 ⟨(·.wakeWorker 0), fun r => .refl r.header⟩, .drop 0,
    .attach "/pool" ⟨2, 1⟩]

theorem allowed_pair : ∀ act ∈ pair, act.Allowed := by
  simp only [pair, List.forall_mem_cons, Act.Allowed]
  exact ⟨by decide, trivial, trivial, by decide, nofun⟩

theorem undisturbed_pair :
    Memory.Sound {} ∧ (∀ act ∈ pair, act.Allowed) ∧ (run {} pair).Undisturbed ∧
      (run {} pair).memory.Offers "/pool" ⟨2, 1⟩ 0 ∧ (run {} pair).memory.Vacant "/other" := by
  refine ⟨Memory.sound_empty, allowed_pair, undisturbed_run Memory.sound_empty allowed_pair,
    ?offers, ?vacant⟩
  case offers =>
    exact ⟨by decide, ⟨"pool", by decide, by decide⟩, by decide, by decide, by decide, by decide⟩
  case vacant =>
    refine ⟨by decide, "other", by decide, fun n hkey => ?_⟩
    have hnone : (run {} pair).memory.names.get? "other" = none := by decide
    rw [hnone] at hkey
    cases hkey

end Scene

end Admission
