import Admission.Proofs.Procedure.Frame
import Admission.Proofs.Session.Dialog

set_option autoImplicit false

/-!
# What procedures come to

A procedure that writes only through its transaction is a function of the values it
sees: it ends in some way and leaves other values.  Calling procedures in order until
one of them objects is told here in these terms, without sessions, levels and faults,
and a session with procedures at work is shown to do just that.
-/

namespace Admission

/-- What a program makes of the values it sees.  Steps beyond the transaction, of which a
transactional program has none, are passed over. -/
def Program.play : Program → Values → Ending Output × Values
  | .finish ending, v => (ending, v)
  | .get key next, v => play (next (v key)) v
  | .put key value next, v => play (next ()) fun k => if k = key then some value else v k
  | .delete key next, v => play (next ()) fun k => if k = key then none else v k
  | .trace _ next, v => play (next ()) v
  | .order _ next, v => play (next none) v
  | .define _ _ _ _ next, v => play (next none) v
  | .databaseExists _ next, v => play (next false) v
  | .changeSlot _ _ _ next, v => play (next ()) v

/-- The reason to reject that an answer gives: a text that is not empty, alone or in the
first column of the first row. -/
def Output.objection? : Output → Option String
  | .text (some t) => if t = "" then none else some t
  | .rows ((some t :: _) :: _) => if t = "" then none else some t
  | _ => none

theorem Output.rejection?_eq (o : Output) : o.rejection? = o.objection? := by
  have hfilter (t : String) :
      (some t).filter (· ≠ "") = if t = "" then none else some t := by
    by_cases h : t = "" <;> simp [h]
  rcases o with _ | ⟨_ | t⟩ | ⟨_ | ⟨_ | ⟨_ | t, row⟩, rows⟩⟩
  case text.some => exact hfilter t
  case rows.cons.cons.some => exact hfilter t
  all_goals rfl

/-! ## In a database -/

namespace Database

/-- All procedures of the database write only through their transaction. -/
def Transactional (db : Database) : Prop :=
  ∀ (name : String × String) (body : Procedure), db.procedures.get? name = some body →
    ∀ args : Args, (body args).Transactional

/-- The error for a procedure that is not defined. -/
def undefined (name : String × String) : BackendError :=
  let quoted := String.ofList <|
    QualifiedName.quotePart name.1.toList ++ '.' :: QualifiedName.quotePart name.2.toList
  ⟨s!"function {quoted} does not exist", none⟩

/-- What calling a procedure comes to. -/
def answer (db : Database) (args : Args) (name : String × String) (v : Values) :
    Ending Output × Values :=
  match db.procedures.get? name with
  | none => (.failed (undefined name), v)
  | some body => (body args).play v

/-- What calling procedures in order comes to, up to the first that objects, raises an
error or panics. -/
def hear (db : Database) (args : Args) : List (String × String) → Values → Outcome × Values
  | [], v => (.accepted, v)
  | name :: rest, v =>
    match db.answer args name v with
    | (.done o, v) =>
      match o.objection? with
      | some reason => (.rejected reason, v)
      | none => db.hear args rest v
    | (.failed e, v) => (.raised e, v)
    | (.unwound p, v) => (.raised (.ofPanic p), v)

/-- What calling procedures in isolation comes to: an error takes all writes back. -/
def isolate (db : Database) (args : Args) (names : List (String × String)) (v : Values) :
    Outcome × Values :=
  match db.hear args names v with
  | (.raised e, _) => (.raised e, v)
  | heard => heard

end Database

/-- The procedures of this database, if it is there, write only through their
transaction. -/
def Catalog.TransactionalIn (c : Catalog) (database : String) : Prop :=
  ∀ db : Database, c.databases.get? database = some db → db.Transactional

/-! ## In a session -/

namespace Dialog

/-- The values that the session sees. -/
def values (d : Dialog) : Values :=
  d.session.get? d.host.catalog

/-- `after` comes from `before` by changes to the innermost level of the session, to the
trace and to what is planned for calls. -/
structure Contained (before after : Dialog) : Prop where
  session : before.session.Within after.session
  host_eq : ∃ (plan : FaultPlan) (trace : List String),
    after.host = { before.host with faults := plan, trace }

/-- The procedures of the session's database write only through their transaction. -/
def Transactional (d : Dialog) : Prop :=
  d.host.catalog.TransactionalIn d.session.database

namespace Contained

variable {a b c : Dialog}

theorem refl (d : Dialog) : Contained d d :=
  ⟨.refl _, d.host.faults, d.host.trace, rfl⟩

theorem trans (h₁ : Contained a b) (h₂ : Contained b c) : Contained a c := by
  obtain ⟨_, _, hab⟩ := h₁.host_eq
  obtain ⟨plan, trace, hbc⟩ := h₂.host_eq
  exact ⟨h₁.session.trans h₂.session, plan, trace, by rw [hbc, hab]⟩

theorem catalog_eq (h : Contained a b) : b.host.catalog = a.host.catalog := by
  obtain ⟨_, _, hhost⟩ := h.host_eq
  rw [hhost]

theorem transactional (h : Contained a b) (ha : a.Transactional) : b.Transactional := by
  intro db hdb
  rw [h.catalog_eq, h.session.database_eq] at hdb
  exact ha db hdb

end Contained

/-! ## One program -/

section Perform

variable {d : Dialog} {p : Program}

theorem values_write (hopen : d.session.layers ≠ []) (w : Write) :
    (d.write w).values = fun key => if key = w.1 then w.2 else d.values key := by
  obtain ⟨top, rest, hlayers⟩ := List.exists_cons_of_ne_nil hopen
  have hdatabase := (d.session.within_write w).database_eq
  have hpending : (d.session.write w).pending = (top.write w :: rest).flatten := by
    rw [Session.write, hlayers, Session.pending]
  rw [values, values, write, Session.get?_eq, Session.get?_eq, hdatabase, hpending,
    Values.overlaid_write, Session.pending, hlayers]

/-- A transactional program ends as it plays, leaves the values that it plays to, and
touches nothing of the host but the trace. -/
theorem perform_of_transactional (h : p.Transactional) (hopen : d.session.layers ≠ []) :
    (perform p d).1 = (p.play d.values).1 ∧ (perform p d).2.values = (p.play d.values).2 ∧
      ∃ trace : List String, (perform p d).2.host = { d.host with trace } := by
  induction h generalizing d with
  | finish ending => exact ⟨rfl, rfl, d.host.trace, rfl⟩
  | get _ ih => exact ih _ hopen
  | @put key value next _ ih =>
    have hstep := ih (d := d.write (key, some value))
      ((within_write d _).session.open_of_open hopen)
    rw [values_write hopen] at hstep
    exact hstep
  | @delete key next _ ih =>
    have hstep := ih (d := d.write (key, none)) ((within_write d _).session.open_of_open hopen)
    rw [values_write hopen] at hstep
    exact hstep
  | @trace line next _ ih =>
    exact ih (d := { d with host := { d.host with trace := d.host.trace ++ [line] } }) hopen

theorem contained_perform (h : p.Transactional) (d : Dialog) (hopen : d.session.layers ≠ []) :
    Contained d (perform p d).2 := by
  obtain ⟨-, -, trace, hhost⟩ := perform_of_transactional h hopen
  exact ⟨(within_perform p d).session, d.host.faults, trace, hhost⟩

end Perform

end Dialog

end Admission
