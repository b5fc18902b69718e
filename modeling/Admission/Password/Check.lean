import Admission.Procedure.Policy
import Admission.Settings.Basic

set_option autoImplicit false

/-!
# Checking passwords

A password being set is checked by the procedures registered for it, either in
the session of whoever sets it or in a session of its own on a configured
database.  The password itself is handed to the procedures; the log gets the
outcome, and of an error that a procedure raised its text as well.
-/

namespace Admission

/-- What messages add about the database that is checked in. -/
def PasscheckSettings.whereabouts (s : PasscheckSettings) : String :=
  if s.database = "" then "" else s!" in the passcheck database \"{s.database}\""

namespace PasswordCheck

/-- What is logged about an outcome. -/
def outcomeLog (user : String) : Outcome → List LogLine
  | .accepted => []
  | .rejected _ => [⟨.debug, s!"[PASSCHECK] Password rejected for user \"{user}\""⟩]
  | .raised e =>
    [⟨.debug, s!"[PASSCHECK] Password check raised for user \"{user}\": {e.message}"⟩]

/-- The error of an outcome; what was accepted has none. -/
def outcomeError? : Outcome → Option BackendError
  | .accepted => none
  | .rejected reason => some ⟨Text.singleLine reason, none⟩
  | .raised e => some e.onOneLine

/-- Check a password inside the open transaction of a session. -/
def check (s : PasscheckSettings) (r : PasswordRequest) : Attempt Dialog Unit := do
  match ← Dialog.evaluate .passcheck s.mode with
  | .accept _ => pure ()
  | .reject failure =>
    .fail ⟨failure.message .passcheck ++ s.whereabouts, none⟩
  | .run procedures =>
    let outcome ← Dialog.runIsolated procedures (.passcheck r)
    Dialog.onHost (.modify (·.say (outcomeLog r.user outcome)))
    match outcomeError? outcome with
    | none => pure ()
    | some e => .fail e

/-- The error when no database is configured. -/
def noDatabaseConfigured : BackendError :=
  ⟨"no passcheck database is configured",
    some "Set passcheck.database, or run the check in the calling session"⟩

/-- The error when the configured database does not exist. -/
def databaseMissing (database : String) : BackendError :=
  ⟨s!"The passcheck database \"{database}\" does not exist",
    some "Check the value of passcheck.database"⟩

/-- The error when the configured database cannot be connected to. -/
def unreachable (database : String) (e : BackendError) : BackendError :=
  ⟨s!"\"{Feature.passcheck}\" feature was not able to connect to the database " ++
    s!"\"{database}\": {e.message}", none⟩

/-- Check a password in a fresh session on the configured database.  The
transaction is committed even when the password is refused. -/
def checkVia (s : PasscheckSettings) (r : PasswordRequest) : Attempt Host Unit := do
  if s.mode = .off then
    pure ()
  else if s.database = "" then
    .fail noDatabaseConfigured
  else if !(← Host.databaseExists s.database) then
    .fail (databaseMissing s.database)
  else
    let session ← (Host.connect s.database).mapError (unreachable s.database)
    let result ← fun h =>
      let (ending, d) := (Dialog.transaction (check s r).settle) ⟨session, h⟩
      (ending, d.host)
    match result with
    | .ok () => pure ()
    | .error e => .fail e

end PasswordCheck

end Admission
