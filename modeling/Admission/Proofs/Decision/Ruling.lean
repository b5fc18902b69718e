import Admission.Proofs.Procedure.Policy
import Admission.Settings.Basic
import Admission.Slot.Basic

set_option autoImplicit false

/-!
# What is decided about a request

The decision told without workers, sessions and transactions: what the settings exempt
is accepted, and all else is left to the database, which may not be there, may have
nothing to run, may have entries that name no procedure, and otherwise has its
procedures heard.  The values that the procedures leave are part of the decision.
-/

namespace Admission

/-- What is decided about a request. -/
inductive Ruling where
  | accept
  | reject (reason : String)
  deriving DecidableEq, Repr

/-- The reason of a rejection. -/
def Ruling.reason? : Ruling → Option String
  | .accept => none
  | .reject reason => some reason

/-- What is decided when procedures have run. -/
def Outcome.ruling : Outcome → Ruling
  | .accepted => .accept
  | .rejected reason => .reject reason
  | .raised e => .reject e.message

/-- What is decided when there is nothing to run. -/
def Mode.ruling (m : Mode) (feature : Feature) (failure : RequireFailure) : Ruling :=
  if m = .require then .reject (failure.message feature) else .accept

/-- What a database decides, and the values that it has afterwards. -/
def Database.ruling (db : Database) (feature : Feature) (mode : Mode) (args : Args)
    (v : Values) : Ruling × Values :=
  if db.catalogInstalled then
    match firstFlaw? feature (db.entriesFor feature), db.entriesFor feature with
    | some e, _ => (.reject e.message, v)
    | none, [] => (mode.ruling feature .noProcedures, v)
    | none, entries => (db.isolate args entries v).map Outcome.ruling id
  else
    (mode.ruling feature .catalogMissing, v)

/-- The settings exempt the connection from all checks. -/
def ClientAuthSettings.Exempts (s : ClientAuthSettings) (c : Connection) : Prop :=
  c.user ∈ s.usersToSkip.entries ∨ c.database ∈ s.databasesToSkip.entries ∨ s.mode = .off

instance (s : ClientAuthSettings) (c : Connection) : Decidable (s.Exempts c) :=
  inferInstanceAs (Decidable (_ ∨ _ ∨ _))

/-- What is decided about a connection and its status, and the values that the configured
database has afterwards.  `missing` is the reason when that is not there. -/
def ClientAuthSettings.ruling (s : ClientAuthSettings) (catalog : Catalog) (missing : String)
    (c : Connection) (status : Int32) : Ruling × Values :=
  let v := catalog.committed? s.database
  if s.Exempts c then
    (.accept, v)
  else
    match catalog.databases.get? s.database with
    | none => (.reject missing, v)
    | some db => db.ruling .clientauth s.mode (.clientauth c status) v

end Admission
