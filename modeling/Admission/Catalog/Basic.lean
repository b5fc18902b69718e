import Admission.Dict
import Admission.Procedure.Name
import Admission.Procedure.Program

set_option autoImplicit false

/-!
# The catalog

Databases kept in memory: each has procedures, a registry that says which of
them a feature runs and in what order, and a store of committed values.  An
order to the catalog that is refused changes nothing.
-/

namespace Admission

/-- A procedure registered for a feature. -/
structure Registration where
  feature : Feature
  schema : String
  name : String
  deriving DecidableEq, Repr, Inhabited

/-- One database. -/
structure Database where
  /-- Whether the registry exists. -/
  catalogInstalled : Bool := false
  /-- The procedures by schema and name. -/
  procedures : Dict (String × String) Procedure := .empty
  /-- The registered procedures, the oldest registration first. -/
  registrations : List Registration := []
  /-- The committed values. -/
  store : Dict String String := .empty
  deriving Inhabited

namespace Database

/-- The schemas and names registered for a feature, in order of registration. -/
def entriesFor (db : Database) (feature : Feature) : List (String × String) :=
  (db.registrations.filter (·.feature = feature)).map fun r => (r.schema, r.name)

/-- Register a procedure, behind all earlier registrations. -/
def register (db : Database) (r : Registration) : Except BackendError Database :=
  if !db.catalogInstalled then
    .error ⟨"procedure catalog is not installed", none⟩
  else if !db.procedures.contains (r.schema, r.name) then
    .error ⟨s!"procedure {r.schema}.{r.name} does not exist", none⟩
  else if r ∈ db.registrations then
    .error ⟨s!"{r.schema}.{r.name} is already registered for \"{r.feature}\"", none⟩
  else
    .ok { db with registrations := db.registrations ++ [r] }

/-- Take a registration back. -/
def unregister (db : Database) (r : Registration) : Except BackendError Database :=
  if r ∈ db.registrations then
    .ok { db with registrations := db.registrations.filter (· ≠ r) }
  else
    .error ⟨s!"{r.schema}.{r.name} is not registered for \"{r.feature}\"", none⟩

end Database

/-- All databases. -/
structure Catalog where
  databases : Dict String Database := .empty
  deriving Inhabited

/-- The error for a database that is not there. -/
def noDatabase (name : String) : BackendError :=
  ⟨s!"database \"{name}\" does not exist", none⟩

namespace Catalog

/-- Whether there is a database of this name. -/
def exists? (c : Catalog) (name : String) : Bool :=
  c.databases.contains name

/-- The database of this name. -/
def database? (c : Catalog) (name : String) : Except BackendError Database :=
  match c.databases.get? name with
  | none => .error (noDatabase name)
  | some db => .ok db

/-- Replace the database of this name by a changed one. -/
def changing (c : Catalog) (name : String) (change : Database → Except BackendError Database) :
    Except BackendError Catalog := do
  let db ← change (← c.database? name)
  pure ⟨c.databases.insert name db⟩

/-- Carry out an order. -/
def obey (c : Catalog) : CatalogOrder → Except BackendError Catalog
  | .createDatabase name =>
    .ok (if c.exists? name then c else ⟨c.databases.insert name {}⟩)
  | .dropDatabase name => .ok ⟨c.databases.erase name⟩
  | .install name => c.changing name fun db => .ok { db with catalogInstalled := true }
  | .uninstall name =>
    c.changing name fun db => .ok { db with catalogInstalled := false, registrations := [] }
  | .register db feature schema name => c.changing db (·.register ⟨feature, schema, name⟩)
  | .unregister db feature schema name => c.changing db (·.unregister ⟨feature, schema, name⟩)

/-- Define a procedure, or give it a new body. -/
def define (c : Catalog) (database schema name : String) (body : Procedure) :
    Except BackendError Catalog :=
  c.changing database fun db =>
    .ok { db with procedures := db.procedures.insert (schema, name) body }

/-- The committed value of a key. -/
def committed? (c : Catalog) (database key : String) : Option String :=
  (c.databases.get? database).bind (·.store.get? key)

end Catalog

end Admission
