import Admission.Catalog.Basic

set_option autoImplicit false

/-!
# Sessions and their transactions

A session works on one database.  Its open transaction is a stack of layers, one
for the transaction and one for each open sub-transaction, and a layer is a list
of writes, the newest first.  A write takes the place of an older one of the same
key in its layer.  Releasing a sub-transaction puts its writes before those of
the layer below; committing applies what has gathered to the store.
-/

namespace Admission

/-- A write of a transaction: a key with its new value, or with none when it is
deleted. -/
abbrev Write : Type := String × Option String

/-- The writes of one level, the newest first. -/
abbrev Layer : Type := List Write

/-- The value a layer gives a key, if it writes the key at all. -/
def Layer.get? (layer : Layer) (key : String) : Option (Option String) :=
  layer.lookup key

/-- The layer with one more write. -/
def Layer.write (layer : Layer) (w : Write) : Layer :=
  w :: List.filter (fun older => older.1 ≠ w.1) layer

theorem Layer.get?_write (layer : Layer) (w : Write) (key : String) :
    (layer.write w).get? key = if key = w.1 then some w.2 else layer.get? key := by
  obtain ⟨k, v⟩ := w
  by_cases h : key = k
  · subst h
    simp [Layer.write, Layer.get?]
  · have hf := Dict.lookup_filter_ne layer k key
    simp only [Layer.write, Layer.get?]
    rw [Dict.lookup_cons_ne h, hf, if_neg h, if_neg h]

/-- Apply one write to a store. -/
def applyWrite (store : Dict String String) : Write → Dict String String
  | (key, some value) => store.insert key value
  | (key, none) => store.erase key

/-- Apply the writes of a layer to a store, the oldest first. -/
def Layer.applyTo (layer : Layer) (store : Dict String String) : Dict String String :=
  List.foldr (fun w s => applyWrite s w) store layer

/-- A session on a database. -/
structure Session where
  database : String
  /-- The open levels, the innermost first. -/
  layers : List Layer := []
  deriving DecidableEq, Repr, Inhabited

namespace Session

/-- How many levels are open. -/
def depth (s : Session) : Nat :=
  s.layers.length

/-- Open a transaction. -/
def begin? (s : Session) : Except BackendError Session :=
  match s.layers with
  | [] => .ok { s with layers := [[]] }
  | _ :: _ => .error ⟨"there is already a transaction in progress", none⟩

/-- Open a sub-transaction. -/
def beginSub? (s : Session) : Except BackendError Session :=
  match s.layers with
  | [] => .error ⟨"sub-transaction outside a transaction", none⟩
  | layers => .ok { s with layers := [] :: layers }

/-- Close the innermost sub-transaction and keep its writes. -/
def releaseSub? (s : Session) : Except BackendError Session :=
  match s.layers with
  | top :: parent :: rest => .ok { s with layers := (top ++ parent) :: rest }
  | _ => .error ⟨"no sub-transaction in progress", none⟩

/-- Close the innermost sub-transaction, if there is one, and drop its writes. -/
def rollbackSub (s : Session) : Session :=
  match s.layers with
  | _ :: parent :: rest => { s with layers := parent :: rest }
  | _ => s

/-- Close all levels and drop their writes. -/
def rollback (s : Session) : Session :=
  { s with layers := [] }

/-- All writes of the open levels, the newest first. -/
def pending (s : Session) : Layer :=
  s.layers.flatten

/-- Write to the innermost level, if one is open. -/
def write (s : Session) (w : Write) : Session :=
  match s.layers with
  | [] => s
  | top :: rest => { s with layers := top.write w :: rest }

/-- The value of a key as the session sees it: its own newest write, else the
committed value. -/
def get? (s : Session) (c : Catalog) (key : String) : Option String :=
  match Layer.get? s.pending key with
  | some value => value
  | none => c.committed? s.database key

/-- Apply the writes of the open transaction to its database. -/
def commitTo? (s : Session) (c : Catalog) : Except BackendError Catalog :=
  c.changing s.database fun db => .ok { db with store := s.pending.applyTo db.store }

end Session

end Admission
