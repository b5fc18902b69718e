import Admission.Attempt
import Admission.Feature
import Admission.Procedure.Args
import Admission.Procedure.Output

set_option autoImplicit false

/-!
# Procedures as programs

A registered procedure is a function from its arguments to a program: a tree of
the steps it takes on the open transaction, on the catalog and on the slot
tables that it can see, each followed by what it does with the answer.  A step
that only does something answers with nothing, but what follows is still a
function of that, so it is worked out when its turn comes and not before.  A
program that steps on the transaction alone is called transactional.
-/

namespace Admission

/-- An order to the catalog that needs no procedure body. -/
inductive CatalogOrder where
  | createDatabase (database : String)
  | dropDatabase (database : String)
  | install (database : String)
  | uninstall (database : String)
  | register (database : String) (feature : Feature) (schema name : String)
  | unregister (database : String) (feature : Feature) (schema name : String)
  deriving DecidableEq, Repr, Inhabited

/-- New values for parts of a slot; what is left out stays. -/
structure SlotChange where
  available : Option Bool := none
  done : Option Bool := none
  generation : Option UInt32 := none
  status : Option Int32 := none
  owner : Option UInt32 := none
  /-- A result: no text for an acceptance, a text for a rejection. -/
  result : Option (Option String) := none
  connection : Option Connection := none
  deriving DecidableEq, Repr, Inhabited

/-- What a procedure does. -/
inductive Program where
  /-- End with an answer, an error or a panic. -/
  | finish (ending : Ending Output)
  /-- Read a key of the transaction. -/
  | get (key : String) (next : Option String → Program)
  /-- Write a key of the transaction. -/
  | put (key value : String) (next : Unit → Program)
  /-- Delete a key of the transaction. -/
  | delete (key : String) (next : Unit → Program)
  /-- Leave a line in the host's trace, which no transaction takes back. -/
  | trace (line : String) (next : Unit → Program)
  /-- Give the catalog an order. -/
  | order (order : CatalogOrder) (next : Option BackendError → Program)
  /-- Define a procedure in the catalog. -/
  | define (database schema name : String) (body : Args → Program)
    (next : Option BackendError → Program)
  /-- Ask whether a database exists; the program fails or panics if the asking does. -/
  | databaseExists (database : String) (next : Bool → Program)
  /-- Change a slot of a table, if there is a table of this name. -/
  | changeSlot (table : String) (slot : Nat) (change : SlotChange) (next : Unit → Program)

instance : Inhabited Program := ⟨.finish (.done .void)⟩

/-- The body of a registered procedure. -/
abbrev Procedure : Type := Args → Program

namespace Program

/-- The program writes only through its transaction. -/
inductive Transactional : Program → Prop where
  | finish (ending : Ending Output) : Transactional (.finish ending)
  | get {key : String} {next : Option String → Program}
      (h : ∀ v, Transactional (next v)) : Transactional (.get key next)
  | put {key value : String} {next : Unit → Program}
      (h : Transactional (next ())) : Transactional (.put key value next)
  | delete {key : String} {next : Unit → Program}
      (h : Transactional (next ())) : Transactional (.delete key next)
  | trace {line : String} {next : Unit → Program}
      (h : Transactional (next ())) : Transactional (.trace line next)

end Program

end Admission
