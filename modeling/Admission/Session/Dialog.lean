import Admission.Host

set_option autoImplicit false

/-!
# Dialogs

A dialog is a session at work on its host.  Each call first meets the fault
planned for it, if there is one, and only then the session, so a struck call
leaves the session as it was.
-/

namespace Admission

/-- A session and the host it works on. -/
structure Dialog where
  session : Session
  host : Host
  deriving Inhabited

namespace Dialog

/-- Do something with the host. -/
def onHost {α : Type} (x : Attempt Host α) : Attempt Dialog α :=
  x.onPart host fun d h => { d with host := h }

/-- A step of the session that may refuse. -/
def step (f : Session → Except BackendError Session) : Attempt Dialog Unit :=
  .ofExcept fun d => (f d.session).map fun s => ((), { d with session := s })

/-- Open a transaction. -/
def begin : Attempt Dialog Unit := do
  onHost (Host.strike .begin)
  step Session.begin?

/-- Commit the transaction; the sub-transactions still open count as released.
Whether the database takes the writes or is gone, no level is open afterwards. -/
def commit : Attempt Dialog Unit := do
  onHost (Host.strike .commit)
  fun d =>
    if d.session.layers = [] then
      (.failed ⟨"there is no transaction in progress", none⟩, d)
    else
      let ended := { d with session := d.session.rollback }
      match d.session.commitTo? d.host.catalog with
      | .error e => (.failed e, ended)
      | .ok c => (.done (), { ended with host := { d.host with catalog := c } })

/-- Drop all levels. -/
def rollback : Attempt Dialog Unit :=
  .modify fun d => { d with session := d.session.rollback }

/-- Open a sub-transaction. -/
def beginSub : Attempt Dialog Unit := do
  onHost (Host.strike .beginSub)
  step Session.beginSub?

/-- Release the innermost sub-transaction. -/
def releaseSub : Attempt Dialog Unit := do
  onHost (Host.strike .releaseSub)
  step Session.releaseSub?

/-- Drop the innermost sub-transaction. -/
def rollbackSub : Attempt Dialog Unit :=
  .modify fun d => { d with session := d.session.rollbackSub }

/-- The database of the session, if it is still there. -/
def database : Attempt Dialog Database :=
  .ofExcept fun d => (d.host.catalog.database? d.session.database).map fun db => (db, d)

/-- Whether the registry of the database exists. -/
def catalogInstalled : Attempt Dialog Bool := do
  onHost (Host.strike .catalogInstalled)
  return (← database).catalogInstalled

/-- What is registered for a feature, in order of registration. -/
def featureEntries (feature : Feature) : Attempt Dialog (List (String × String)) := do
  onHost (Host.strike .featureEntries)
  return (← database).entriesFor feature

/-- Write to the open transaction. -/
def write (d : Dialog) (w : Write) : Dialog :=
  { d with session := d.session.write w }

/-- What a step of a host leaves, with the error if it failed.  A panic is none. -/
def answered (x : Attempt Host Unit) (d : Dialog) : Option BackendError × Dialog :=
  match x d.host with
  | (.failed e, h) => (some e, { d with host := h })
  | (_, h) => (none, { d with host := h })

/-- Carry out a program in the session. -/
def perform : Program → Attempt Dialog Output
  | .finish ending => .conclude ending
  | .get key next => fun d => perform (next (d.session.get? d.host.catalog key)) d
  | .put key value next => fun d => perform (next ()) (d.write (key, some value))
  | .delete key next => fun d => perform (next ()) (d.write (key, none))
  | .trace line next => fun d =>
    perform (next ()) { d with host := { d.host with trace := d.host.trace ++ [line] } }
  | .order o next => fun d =>
    let (e, d) := answered (Host.order o) d
    perform (next e) d
  | .define db schema name body next => fun d =>
    let (e, d) := answered (Host.define db schema name body) d
    perform (next e) d
  | .databaseExists db next => fun d =>
    match Host.databaseExists db d.host with
    | (.done b, h) => perform (next b) { d with host := h }
    | (.failed e, h) => (.failed e, { d with host := h })
    | (.unwound p, h) => (.unwound p, { d with host := h })
  | .changeSlot table slot change next => fun d =>
    match d.host.tables.get? table with
    | none => perform (next ()) d
    | some t =>
      match Host.changeSlot t slot change d.host with
      | (.done (), h) => perform (next ()) { d with host := h }
      | (.failed e, h) => (.failed e, { d with host := h })
      | (.unwound p, h) => (.unwound p, { d with host := h })

/-- Call a procedure inside the open transaction. -/
def call (procedure : QualifiedName) (args : Args) : Attempt Dialog Output := do
  onHost (Host.strike .call)
  if (← Attempt.gets (·.session.depth)) = 0 then
    .fail ⟨"procedure call outside a transaction", none⟩
  else
    match (← database).procedures.get? (procedure.schema, procedure.name) with
    | none => .fail ⟨s!"function {procedure.quoted} does not exist", none⟩
    | some body => perform (body args)

/-- Do something in a transaction of its own, which is committed if it is done
and rolled back if it fails or panics. -/
def transaction {α : Type} (body : Attempt Dialog α) : Attempt Dialog α :=
  .bracket begin commit rollback body

end Dialog

end Admission
