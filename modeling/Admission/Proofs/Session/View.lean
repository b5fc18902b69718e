import Admission.Session.Basic

set_option autoImplicit false

/-!
# What a session sees

A reader of a database sees its values and no more.  A session sees the values that
are committed, overlaid by its own pending writes, and a commit makes what the
session sees the committed values.
-/

namespace Admission

/-- The values of a database as a reader sees them. -/
abbrev Values : Type := String → Option String

/-- The values with the writes of a layer laid over them. -/
def Values.overlaid (v : Values) (layer : Layer) : Values :=
  fun key => (layer.get? key).getD (v key)

/-! ## Layers -/

/-- Of two layers the front one decides. -/
theorem Layer.get?_append (front back : Layer) (key : String) :
    Layer.get? (front ++ back) key = (front.get? key).or (back.get? key) :=
  List.lookup_append

@[simp] theorem Values.overlaid_nil (v : Values) : v.overlaid [] = v := rfl

/-- A newer write comes on top. -/
theorem Values.overlaid_write (v : Values) (top : Layer) (rest : List Layer) (w : Write) :
    v.overlaid (top.write w :: rest).flatten =
      fun key => if key = w.1 then w.2 else v.overlaid (top :: rest).flatten key := by
  funext key
  simp only [overlaid, List.flatten_cons, Layer.get?_append, Layer.get?_write]
  split <;> rfl

theorem get?_applyWrite (store : Dict String String) (w : Write) (key : String) :
    (applyWrite store w).get? key = if key = w.1 then w.2 else store.get? key := by
  obtain ⟨k, v⟩ := w
  cases v with
  | some v => exact Dict.get?_insert store k v key
  | none => exact Dict.get?_erase store k key

/-- Applying a layer to a store lays its writes over the values. -/
theorem Layer.get?_applyTo (layer : Layer) (store : Dict String String) :
    (layer.applyTo store).get? = Values.overlaid store.get? layer := by
  funext key
  induction layer with
  | nil => rfl
  | cons w older ih =>
    obtain ⟨k, v⟩ := w
    have hstep : Layer.applyTo ((k, v) :: older) store =
        applyWrite (Layer.applyTo older store) (k, v) := rfl
    rw [hstep, get?_applyWrite, ih]
    simp only [Values.overlaid, Layer.get?]
    by_cases h : key = k
    · simp [h]
    · rw [if_neg h, Dict.lookup_cons_ne h]

/-! ## Catalogs -/

namespace Catalog

theorem database?_of_get? {c : Catalog} {name : String} {db : Database}
    (h : c.databases.get? name = some db) : c.database? name = .ok db := by
  rw [database?, h]

theorem database?_of_missing {c : Catalog} {name : String}
    (h : c.databases.get? name = none) : c.database? name = .error (noDatabase name) := by
  rw [database?, h]

theorem committed?_of_get? {c : Catalog} {name : String} {db : Database}
    (h : c.databases.get? name = some db) : c.committed? name = db.store.get? := by
  funext key
  rw [committed?, h]
  rfl

/-- Replacing the store of a database replaces its values and no others. -/
theorem committed?_insert (c : Catalog) (name other : String) (db : Database) :
    (Catalog.mk (c.databases.insert name db)).committed? other =
      if other = name then db.store.get? else c.committed? other := by
  funext key
  rw [committed?, Dict.get?_insert]
  split <;> rfl

end Catalog

/-! ## Sessions -/

namespace Session

variable {s : Session} {c : Catalog}

theorem write_database (s : Session) (w : Write) : (s.write w).database = s.database := by
  unfold Session.write
  split <;> rfl

theorem rollbackSub_database (s : Session) : s.rollbackSub.database = s.database := by
  unfold Session.rollbackSub
  split <;> rfl

/-- A session sees its pending writes over the committed values. -/
theorem get?_eq (s : Session) (c : Catalog) :
    s.get? c = Values.overlaid (c.committed? s.database) s.pending := by
  funext key
  rw [get?, Values.overlaid]
  cases Layer.get? s.pending key <;> rfl

/-- The catalog after the pending writes of a session went into its database. -/
def committed (s : Session) (c : Catalog) (db : Database) : Catalog :=
  ⟨c.databases.insert s.database { db with store := s.pending.applyTo db.store }⟩

theorem commitTo?_of_get? {db : Database} (h : c.databases.get? s.database = some db) :
    s.commitTo? c = .ok (s.committed c db) := by
  rw [commitTo?, Catalog.changing, Catalog.database?_of_get? h]
  rfl

theorem commitTo?_of_missing (h : c.databases.get? s.database = none) :
    s.commitTo? c = .error (noDatabase s.database) := by
  rw [commitTo?, Catalog.changing, Catalog.database?_of_missing h]
  rfl

/-- A commit makes what the session sees the values of its database, and leaves all
other values as they were. -/
theorem committed?_committed {db : Database} (h : c.databases.get? s.database = some db)
    (other : String) :
    (s.committed c db).committed? other =
      if other = s.database then s.get? c else c.committed? other := by
  rw [committed, Catalog.committed?_insert, get?_eq, Catalog.committed?_of_get? h,
    Layer.get?_applyTo]

end Session

end Admission
