import Admission.Proofs.Procedure.Policy
import Admission.Proofs.Session.Interleaving

set_option autoImplicit false

/-!
# The registry, call after call

Databases are created and dropped, their registry is installed and uninstalled, procedures
are defined, registered and taken back, in any order and whether or not a call is granted.
From the calls and their answers alone it is known which registrations stand: those made and
not ended since.  The main statement is that every database has exactly these, in the order
they were made, that they are what a session is told, and that each of them is of a procedure
that is defined; and that a call that is refused leaves no trace.
-/

namespace Admission

/-! ## Calls and what they do to one database -/

/-- A call to the catalog. -/
inductive CatalogCall where
  | order (o : CatalogOrder)
  | define (database schema name : String) (body : Procedure)

/-- What holds of the registrations of a database at any time. -/
structure Database.Sound (db : Database) : Prop where
  nodup : db.registrations.Nodup
  defined : ∀ r ∈ db.registrations, db.procedures.contains (r.schema, r.name) = true
  installed : db.registrations ≠ [] → db.catalogInstalled = true

/-- The registration may be made. -/
structure Database.Admits (db : Database) (r : Registration) : Prop where
  installed : db.catalogInstalled = true
  defined : db.procedures.contains (r.schema, r.name) = true
  fresh : r ∉ db.registrations

/-- The registrations of a database, none if it is not there. -/
def Database.registry : Option Database → List Registration
  | none => []
  | some db => db.registrations

namespace CatalogCall

/-- Make the call. -/
def attempt : CatalogCall → Attempt Host Unit
  | .order o => Host.order o
  | .define database schema name body => Host.define database schema name body

/-- The catalog once the call is carried out. -/
def carryOut (cat : Catalog) : CatalogCall → Except BackendError Catalog
  | .order o => cat.obey o
  | .define database schema name body => cat.define database schema name body

/-- The database that the call is about. -/
def database : CatalogCall → String
  | .order (.createDatabase name) | .order (.dropDatabase name) => name
  | .order (.install name) | .order (.uninstall name) => name
  | .order (.register name ..) | .order (.unregister name ..) => name
  | .define name .. => name

/-- The call is granted when its database is this one, if it is there. -/
def Allowed : CatalogCall → Option Database → Prop
  | .order (.createDatabase _), _ | .order (.dropDatabase _), _ => True
  | .order (.install _), o | .order (.uninstall _), o | .define .., o => o ≠ none
  | .order (.register _ feature schema name), o =>
    ∃ db : Database, o = some db ∧ db.Admits ⟨feature, schema, name⟩
  | .order (.unregister _ feature schema name), o => ⟨feature, schema, name⟩ ∈ Database.registry o

/-- What becomes of its database when the call is granted. -/
def applied : CatalogCall → Option Database → Option Database
  | .order (.createDatabase _), o => some (o.getD {})
  | .order (.dropDatabase _), _ => none
  | .order (.install _), o => o.map fun db => { db with catalogInstalled := true }
  | .order (.uninstall _), o =>
    o.map fun db => { db with catalogInstalled := false, registrations := [] }
  | .order (.register _ feature schema name), o =>
    o.map fun db => { db with registrations := db.registrations ++ [⟨feature, schema, name⟩] }
  | .order (.unregister _ feature schema name), o =>
    o.map fun db =>
      { db with registrations := db.registrations.filter (· ≠ ⟨feature, schema, name⟩) }
  | .define _ schema name body, o =>
    o.map fun db => { db with procedures := db.procedures.insert (schema, name) body }

/-- The registration that the call makes in a database. -/
def adds? (name : String) : CatalogCall → Option Registration
  | .order (.register database feature schema procedure) =>
    if database = name then some ⟨feature, schema, procedure⟩ else none
  | _ => none

/-- Whether the call ends a registration in a database. -/
def ends (name : String) (r : Registration) : CatalogCall → Bool
  | .order (.unregister database feature schema procedure) =>
    database = name && r = ⟨feature, schema, procedure⟩
  | .order (.uninstall database) | .order (.dropDatabase database) => database = name
  | _ => false

end CatalogCall

/-! ## Carrying out a call -/

namespace Catalog

variable {cat : Catalog} {name : String} {db db' : Database}
  {change : Database → Except BackendError Database} {e : BackendError}

/-- The catalogs have the same databases, but for the one of this name. -/
def Updated (cat cat' : Catalog) (name : String) (o : Option Database) : Prop :=
  ∀ other : String,
    cat'.databases.get? other = if other = name then o else cat.databases.get? other

theorem updated_insert (cat : Catalog) (name : String) (db : Database) :
    cat.Updated ⟨cat.databases.insert name db⟩ name (some db) :=
  fun other => Dict.get?_insert cat.databases name db other

theorem updated_erase (cat : Catalog) (name : String) :
    cat.Updated ⟨cat.databases.erase name⟩ name none :=
  fun other => Dict.get?_erase cat.databases name other

theorem updated_self (hget : cat.databases.get? name = some db) :
    cat.Updated cat name (some db) := by
  intro other
  by_cases h : other = name
  · rw [if_pos h, h, hget]
  · rw [if_neg h]

theorem changing_of_get? (hget : cat.databases.get? name = some db) :
    cat.changing name change = (change db).map fun db => ⟨cat.databases.insert name db⟩ := by
  have hbind : cat.changing name change =
      (change db >>= fun db => pure (⟨cat.databases.insert name db⟩ : Catalog)) := by
    rw [changing, database?_of_get? hget]
    rfl
  rw [hbind]
  cases change db <;> rfl

theorem changing_of_missing (hget : cat.databases.get? name = none) :
    cat.changing name change = .error (noDatabase name) := by
  rw [changing, database?_of_missing hget]
  rfl

/-- A change that is not refused is made in its own database. -/
theorem changing_updates (hget : cat.databases.get? name = some db)
    (hchange : change db = .ok db') :
    ∃ cat' : Catalog, cat.changing name change = .ok cat' ∧ cat.Updated cat' name (some db') := by
  refine ⟨_, ?_, cat.updated_insert name db'⟩
  rw [changing_of_get? hget, hchange]
  rfl

theorem changing_refuses_of_missing (hmissing : ¬cat.databases.get? name ≠ none) :
    ∃ e : BackendError, cat.changing name change = .error e :=
  ⟨_, changing_of_missing (Classical.not_not.mp hmissing)⟩

/-- What the database refuses, the catalog refuses. -/
theorem changing_refuses
    (hchange : ∀ db : Database, cat.databases.get? name = some db →
      ∃ e : BackendError, change db = .error e) :
    ∃ e : BackendError, cat.changing name change = .error e := by
  cases hget : cat.databases.get? name with
  | none => exact ⟨_, changing_of_missing hget⟩
  | some db =>
    obtain ⟨e, he⟩ := hchange db hget
    refine ⟨e, ?_⟩
    rw [changing_of_get? hget, he]
    rfl

end Catalog

namespace Database

variable {db : Database} {r : Registration}

theorem register_of_admits (h : db.Admits r) :
    db.register r = .ok { db with registrations := db.registrations ++ [r] } := by
  simp [register, h.installed, h.defined, h.fresh]

theorem register_of_not_admits (h : ¬db.Admits r) :
    ∃ e : BackendError, db.register r = .error e := by
  unfold register
  split
  · exact ⟨_, rfl⟩
  · rename_i hinstalled
    split
    · exact ⟨_, rfl⟩
    · rename_i hdefined
      split
      · exact ⟨_, rfl⟩
      · rename_i hfresh
        exact absurd ⟨by simpa using hinstalled, by simpa using hdefined, hfresh⟩ h

theorem unregister_of_mem (h : r ∈ db.registrations) :
    db.unregister r = .ok { db with registrations := db.registrations.filter (· ≠ r) } := by
  rw [unregister, if_pos h]

theorem unregister_of_not_mem (h : r ∉ db.registrations) :
    ∃ e : BackendError, db.unregister r = .error e := by
  rw [unregister, if_neg h]
  exact ⟨_, rfl⟩

end Database

namespace CatalogCall

variable {cat : Catalog} {c : CatalogCall} {o : Option Database}

/-- A call that is granted changes its own database and no other. -/
theorem carryOut_of_allowed (hget : cat.databases.get? c.database = o) (h : c.Allowed o) :
    ∃ cat' : Catalog, c.carryOut cat = .ok cat' ∧ cat.Updated cat' c.database (c.applied o) := by
  cases c with
  | define name schema procedure body =>
    obtain ⟨db, rfl⟩ := Option.ne_none_iff_exists'.mp h
    exact Catalog.changing_updates hget rfl
  | order order =>
    cases order with
    | createDatabase name =>
      have hobey : cat.obey (.createDatabase name) =
          .ok (if o.isSome then cat else ⟨cat.databases.insert name {}⟩) := by
        rw [← hget]
        rfl
      cases o with
      | none => exact ⟨_, hobey, cat.updated_insert name {}⟩
      | some db => exact ⟨cat, hobey, Catalog.updated_self hget⟩
    | dropDatabase name => exact ⟨_, rfl, cat.updated_erase name⟩
    | install name =>
      obtain ⟨db, rfl⟩ := Option.ne_none_iff_exists'.mp h
      exact Catalog.changing_updates hget rfl
    | uninstall name =>
      obtain ⟨db, rfl⟩ := Option.ne_none_iff_exists'.mp h
      exact Catalog.changing_updates hget rfl
    | register name feature schema procedure =>
      obtain ⟨db, rfl, hadmits⟩ := h
      exact Catalog.changing_updates hget (Database.register_of_admits hadmits)
    | unregister name feature schema procedure =>
      cases o with
      | none => cases h
      | some db =>
        have hchange := Database.unregister_of_mem h
        exact Catalog.changing_updates hget hchange

/-- Any other call is refused. -/
theorem carryOut_of_not_allowed (hget : cat.databases.get? c.database = o) (h : ¬c.Allowed o) :
    ∃ e : BackendError, c.carryOut cat = .error e := by
  subst hget
  cases c with
  | define name schema procedure body => exact Catalog.changing_refuses_of_missing h
  | order order =>
    cases order with
    | createDatabase name => exact absurd trivial h
    | dropDatabase name => exact absurd trivial h
    | install name => exact Catalog.changing_refuses_of_missing h
    | uninstall name => exact Catalog.changing_refuses_of_missing h
    | register name feature schema procedure =>
      refine Catalog.changing_refuses fun db hget => Database.register_of_not_admits ?_
      intro hadmits
      exact h ⟨db, hget, hadmits⟩
    | unregister name feature schema procedure =>
      refine Catalog.changing_refuses fun db hget => Database.unregister_of_not_mem ?_
      intro hmem
      apply h
      simpa only [Allowed, database, hget, Database.registry] using hmem

/-- How a call ends, and what it leaves. -/
theorem attempt_eq (c : CatalogCall) (h : Host) :
    c.attempt h =
      match c.carryOut h.catalog with
      | .error e => (.failed e, h)
      | .ok cat => (.done (), { h with catalog := cat }) := by
  cases c with
  | order order =>
    simp only [attempt, carryOut, Host.order, Attempt.ofExcept]
    cases h.catalog.obey order <;> rfl
  | define name schema procedure body =>
    simp only [attempt, carryOut, Host.define, Attempt.ofExcept]
    cases h.catalog.define name schema procedure body <;> rfl

theorem attempt_of_allowed {h : Host}
    (hallowed : c.Allowed (h.catalog.databases.get? c.database)) :
    ∃ cat : Catalog, c.attempt h = (.done (), { h with catalog := cat }) ∧
      h.catalog.Updated cat c.database (c.applied (h.catalog.databases.get? c.database)) := by
  obtain ⟨cat, hcarry, hupdated⟩ := carryOut_of_allowed rfl hallowed
  exact ⟨cat, by rw [attempt_eq, hcarry], hupdated⟩

theorem attempt_of_not_allowed {h : Host}
    (hallowed : ¬c.Allowed (h.catalog.databases.get? c.database)) :
    ∃ e : BackendError, c.attempt h = (.failed e, h) := by
  obtain ⟨e, hcarry⟩ := carryOut_of_not_allowed rfl hallowed
  exact ⟨e, by rw [attempt_eq, hcarry]⟩

/-! ## What a granted call does to the registrations -/

/-- A call is about its own database alone. -/
theorem adds?_of_ne {name : String} (h : name ≠ c.database) : c.adds? name = none := by
  cases c with
  | define => rfl
  | order order =>
    cases order with
    | register database => exact if_neg (Ne.symm h)
    | _ => rfl

theorem ends_of_ne {name : String} (h : name ≠ c.database) (r : Registration) :
    c.ends name r = false := by
  cases c with
  | define => rfl
  | order order =>
    cases order with
    | createDatabase | install | register => rfl
    | dropDatabase database => exact decide_eq_false (Ne.symm h)
    | uninstall database => exact decide_eq_false (Ne.symm h)
    | unregister database =>
      have hne : decide (database = name) = false := decide_eq_false (Ne.symm h)
      rw [ends, hne, Bool.false_and]

theorem filter_ends_nothing {name : String} (h : ∀ r : Registration, c.ends name r = false)
    (rs : List Registration) : rs.filter (fun r => !c.ends name r) = rs := by
  rw [List.filter_eq_self]
  intro r _
  rw [h r]
  rfl

/-- What a granted call ends is gone, what it makes comes last, and all else stays where it
was. -/
theorem registry_applied (h : c.Allowed o) :
    Database.registry (c.applied o) =
      (Database.registry o).filter (fun r => !c.ends c.database r) ++
        (c.adds? c.database).toList := by
  cases c with
  | define name schema procedure body =>
    rw [filter_ends_nothing fun _ => rfl]
    cases o <;> simp [applied, Database.registry, adds?]
  | order order =>
    cases order with
    | createDatabase name =>
      rw [filter_ends_nothing fun _ => rfl]
      cases o <;> simp [applied, Database.registry, adds?]
    | dropDatabase name => simp [applied, Database.registry, ends, adds?, database]
    | install name =>
      rw [filter_ends_nothing fun _ => rfl]
      cases o <;> simp [applied, Database.registry, adds?]
    | uninstall name => cases o <;> simp [applied, Database.registry, ends, adds?, database]
    | register name feature schema procedure =>
      obtain ⟨db, rfl, -⟩ := h
      rw [filter_ends_nothing fun _ => rfl]
      simp [applied, Database.registry, adds?, database]
    | unregister name feature schema procedure =>
      cases o <;> simp [applied, Database.registry, ends, adds?, database]

end CatalogCall

namespace Database

variable {db : Database}

theorem sound_empty : Sound {} where
  nodup := List.nodup_nil
  defined := by simp
  installed := absurd rfl

theorem Sound.install (h : db.Sound) : Sound { db with catalogInstalled := true } where
  nodup := h.nodup
  defined := h.defined
  installed _ := rfl

theorem Sound.uninstall (db : Database) :
    Sound { db with catalogInstalled := false, registrations := [] } where
  nodup := List.nodup_nil
  defined := by simp
  installed := absurd rfl

theorem Sound.register (h : db.Sound) {r : Registration} (hadmits : db.Admits r) :
    Sound { db with registrations := db.registrations ++ [r] } where
  nodup := by
    rw [List.nodup_append]
    refine ⟨h.nodup, List.pairwise_singleton _ r, ?_⟩
    intro old hold new hnew heq
    rw [heq, List.mem_singleton.mp hnew] at hold
    exact hadmits.fresh hold
  defined other hother := by
    rcases List.mem_append.mp hother with hold | hnew
    · exact h.defined other hold
    · rw [List.mem_singleton.mp hnew]
      exact hadmits.defined
  installed _ := hadmits.installed

theorem Sound.unregister (h : db.Sound) (r : Registration) :
    Sound { db with registrations := db.registrations.filter (· ≠ r) } where
  nodup := h.nodup.filter _
  defined other hother := h.defined other (List.mem_filter.mp hother).1
  installed hne := h.installed fun hnil => hne (by rw [hnil]; rfl)

/-- A new body takes no procedure away. -/
theorem Sound.define (h : db.Sound) (schema name : String) (body : Procedure) :
    Sound { db with procedures := db.procedures.insert (schema, name) body } where
  nodup := h.nodup
  defined r hr := by
    have hdefined := h.defined r hr
    rw [Dict.contains] at hdefined ⊢
    rw [Dict.get?_insert]
    split
    · rfl
    · exact hdefined
  installed := h.installed

end Database

/-- A granted call keeps a database sound. -/
theorem CatalogCall.sound_applied {c : CatalogCall} {o : Option Database} (h : c.Allowed o)
    (hsound : ∀ db : Database, o = some db → db.Sound) {db : Database}
    (hdb : c.applied o = some db) : db.Sound := by
  cases c with
  | define name schema procedure body =>
    obtain ⟨db, rfl, rfl⟩ := Option.map_eq_some_iff.mp hdb
    exact (hsound db rfl).define schema procedure body
  | order order =>
    cases order with
    | createDatabase name =>
      cases hdb
      cases o with
      | none => exact Database.sound_empty
      | some db => exact hsound db rfl
    | dropDatabase name => cases hdb
    | install name =>
      obtain ⟨db, rfl, rfl⟩ := Option.map_eq_some_iff.mp hdb
      exact (hsound db rfl).install
    | uninstall name =>
      obtain ⟨db, rfl, rfl⟩ := Option.map_eq_some_iff.mp hdb
      exact .uninstall db
    | register name feature schema procedure =>
      obtain ⟨db, rfl, hadmits⟩ := h
      cases hdb
      exact (hsound db rfl).register hadmits
    | unregister name feature schema procedure =>
      obtain ⟨db, rfl, rfl⟩ := Option.map_eq_some_iff.mp hdb
      exact (hsound db rfl).unregister _

/-! ## Histories -/

/-- A call and its answer. -/
structure CatalogEvent where
  call : CatalogCall
  /-- Whether the call was granted. -/
  granted : Bool

namespace CatalogEvent

/-- The registration that was made in a database, if one was. -/
def adds? (name : String) (e : CatalogEvent) : Option Registration :=
  if e.granted then e.call.adds? name else none

/-- Whether a registration in a database was ended. -/
def ends (name : String) (r : Registration) (e : CatalogEvent) : Bool :=
  e.granted && e.call.ends name r

/-- The registrations that were made in a database and have not been ended since. -/
def standing (name : String) : List CatalogEvent → List Registration
  | [] => []
  | e :: later =>
    ((e.adds? name).toList.filter fun r => later.all fun l => !l.ends name r) ++
      standing name later

/-- An event ends some registrations that stood before and may make one. -/
theorem standing_concat (name : String) (past : List CatalogEvent) (e : CatalogEvent) :
    standing name (past ++ [e]) =
      (standing name past).filter (fun r => !e.ends name r) ++ (e.adds? name).toList := by
  induction past with
  | nil =>
    have hall : (e.adds? name).toList.filter (fun _ => true) = (e.adds? name).toList :=
      List.filter_eq_self.mpr fun _ _ => rfl
    simp [standing, hall]
  | cons first past ih =>
    have hlater : ∀ r : Registration,
        ((past ++ [e]).all fun l => !l.ends name r) =
          (!e.ends name r && past.all fun l => !l.ends name r) := by
      simp [Bool.and_comm]
    simp only [List.cons_append, standing, ih, hlater, List.filter_append, List.filter_filter,
      List.append_assoc]

/-- What becomes of a database, if it is there: what the granted calls about it make of it. -/
def became (name : String) (o : Option Database) (e : CatalogEvent) : Option Database :=
  if e.granted && e.call.database = name then e.call.applied o else o

theorem standing_granted (name : String) (past : List CatalogEvent) (c : CatalogCall) :
    standing name (past ++ [⟨c, true⟩]) =
      (standing name past).filter (fun r => !c.ends name r) ++ (c.adds? name).toList :=
  standing_concat name past ⟨c, true⟩

theorem standing_refused (name : String) (past : List CatalogEvent) (c : CatalogCall) :
    standing name (past ++ [⟨c, false⟩]) = standing name past := by
  rw [standing_concat]
  simp [ends, adds?]

end CatalogEvent

open CatalogEvent (became standing standing_granted standing_refused)

namespace Host

/-- A host with no database and no faults planned. -/
def cleared (h : Host) : Host :=
  { h with catalog := {}, faults := .none }

/-- Make calls in order, whether or not they are granted, and note the answers. -/
def administer : List CatalogCall → Host → List CatalogEvent × Host
  | [], h => ([], h)
  | c :: calls, h =>
    let (ending, next) := c.attempt h
    let (events, last) := administer calls next
    (⟨c, ending.isDone⟩ :: events, last)

theorem map_call_administer (calls : List CatalogCall) (h : Host) :
    (administer calls h).1.map (·.call) = calls := by
  induction calls generalizing h with
  | nil => rfl
  | cons c calls ih => exact congrArg (c :: ·) (ih (c.attempt h).2)

/-- The databases of a host are what these events made of them, with the registrations that
stand. -/
structure Records (events : List CatalogEvent) (h : Host) : Prop where
  unplanned : h.faults = .none
  database_eq : ∀ name : String,
    h.catalog.databases.get? name = events.foldl (became name) none
  sound : ∀ (name : String) (db : Database),
    h.catalog.databases.get? name = some db → db.Sound
  registry_eq : ∀ name : String,
    Database.registry (h.catalog.databases.get? name) = standing name events

theorem Records.cleared (h : Host) : Records [] h.cleared where
  unplanned := rfl
  database_eq _ := rfl
  sound _ _ hget := by cases hget
  registry_eq _ := rfl

variable {events : List CatalogEvent} {h : Host}

/-- One more call, granted or not. -/
theorem Records.attempt (hrecords : Records events h) (c : CatalogCall) :
    Records (events ++ [⟨c, (c.attempt h).1.isDone⟩]) (c.attempt h).2 := by
  by_cases hallowed : c.Allowed (h.catalog.databases.get? c.database)
  · obtain ⟨cat, hattempt, hupdated⟩ := CatalogCall.attempt_of_allowed hallowed
    rw [hattempt]
    refine ⟨hrecords.unplanned, fun name => ?_, fun name db hget => ?_, fun name => ?_⟩
    · rw [hupdated name, List.foldl_append, List.foldl_cons, List.foldl_nil, ← hrecords.database_eq]
      by_cases hname : name = c.database
      · subst hname
        simp [became, Ending.isDone]
      · simp [became, hname, Ne.symm hname]
    · rw [hupdated name] at hget
      split at hget
      · exact CatalogCall.sound_applied hallowed (hrecords.sound _) hget
      · exact hrecords.sound name db hget
    · rw [hupdated name]
      split
      · rename_i hname
        subst hname
        rw [CatalogCall.registry_applied hallowed, hrecords.registry_eq]
        exact (standing_granted _ _ c).symm
      · rename_i hname
        rw [hrecords.registry_eq]
        have hstanding := standing_granted name events c
        rw [CatalogCall.filter_ends_nothing (CatalogCall.ends_of_ne hname),
          CatalogCall.adds?_of_ne hname, Option.toList_none, List.append_nil] at hstanding
        exact hstanding.symm
  · obtain ⟨e, hattempt⟩ := CatalogCall.attempt_of_not_allowed hallowed
    rw [hattempt]
    refine ⟨hrecords.unplanned, fun name => ?_, hrecords.sound, fun name => ?_⟩
    · rw [List.foldl_append, List.foldl_cons, List.foldl_nil, ← hrecords.database_eq]
      rfl
    · rw [hrecords.registry_eq]
      exact (standing_refused name events c).symm

theorem Records.administer (hrecords : Records events h) (calls : List CatalogCall) :
    Records (events ++ (administer calls h).1) (administer calls h).2 := by
  induction calls generalizing events h with
  | nil => simpa [Host.administer] using hrecords
  | cons c calls ih =>
    have hlast := ih (hrecords.attempt c)
    rw [List.append_assoc] at hlast
    exact hlast

/-! ## What a session is told, and what a call may do -/

theorem isDone_attempt_iff (c : CatalogCall) :
    (c.attempt h).1.isDone = true ↔ c.Allowed (h.catalog.databases.get? c.database) := by
  by_cases hallowed : c.Allowed (h.catalog.databases.get? c.database)
  · obtain ⟨cat, hattempt, -⟩ := CatalogCall.attempt_of_allowed hallowed
    simp [hattempt, hallowed, Ending.isDone]
  · obtain ⟨e, hattempt⟩ := CatalogCall.attempt_of_not_allowed hallowed
    simp [hattempt, hallowed, Ending.isDone]

/-- A call that is not granted changes nothing. -/
theorem attempt_of_not_isDone {c : CatalogCall} (hrefused : (c.attempt h).1.isDone = false) :
    (c.attempt h).2 = h := by
  have hallowed : ¬c.Allowed (h.catalog.databases.get? c.database) := by
    rw [← isDone_attempt_iff, hrefused]
    decide
  obtain ⟨e, hattempt⟩ := CatalogCall.attempt_of_not_allowed hallowed
  rw [hattempt]

/-- To create a database that is there changes nothing. -/
theorem attempt_createDatabase_of_exists {name : String}
    (hexists : h.catalog.exists? name = true) :
    (CatalogCall.order (.createDatabase name)).attempt h = (.done (), h) := by
  rw [CatalogCall.attempt_eq, CatalogCall.carryOut, Catalog.obey, if_pos hexists]

/-- A host keeps its registry by the rules, as these events had it. -/
structure Faithful (events : List CatalogEvent) (h : Host) : Prop where
  /-- A database is what the granted calls about it made of it, one after another. -/
  database_eq : ∀ name : String,
    h.catalog.databases.get? name = events.foldl (became name) none
  /-- In every database no procedure is registered twice for a feature, every registered one
  is defined, and there are registrations only while the registry is installed. -/
  sound : ∀ (name : String) (db : Database),
    h.catalog.databases.get? name = some db → db.Sound
  /-- A session is told for a feature the registrations that stand, in their order. -/
  listed : ∀ (session : Session) (feature : Feature),
    h.catalog.exists? session.database = true →
      Dialog.featureEntries feature ⟨session, h⟩ =
        (.done (((standing session.database events).filter (·.feature = feature)).map
          fun r => (r.schema, r.name)), ⟨session, h⟩)
  /-- Where there is no database, no registration stands and nothing is told. -/
  missing : ∀ (session : Session) (feature : Feature),
    h.catalog.exists? session.database = false →
      standing session.database events = [] ∧
        Dialog.featureEntries feature ⟨session, h⟩ =
          (.failed (noDatabase session.database), ⟨session, h⟩)
  /-- A call is granted on a database that allows it. -/
  granted_iff : ∀ c : CatalogCall,
    (c.attempt h).1.isDone = true ↔ c.Allowed (h.catalog.databases.get? c.database)
  /-- A call that is not granted changes nothing. -/
  refused : ∀ c : CatalogCall, (c.attempt h).1.isDone = false → (c.attempt h).2 = h
  /-- To create a database that is there changes nothing. -/
  recreated : ∀ name : String, h.catalog.exists? name = true →
    (CatalogCall.order (.createDatabase name)).attempt h = (.done (), h)

theorem Records.listed (hrecords : Records events h) (session : Session) (feature : Feature)
    (hexists : h.catalog.exists? session.database = true) :
    Dialog.featureEntries feature ⟨session, h⟩ =
      (.done (((standing session.database events).filter (·.feature = feature)).map
        fun r => (r.schema, r.name)), ⟨session, h⟩) := by
  obtain ⟨db, hget⟩ := Option.isSome_iff_exists.mp hexists
  have hregistry := hrecords.registry_eq session.database
  rw [hget, Database.registry] at hregistry
  rw [Dialog.featureEntries_of_unplanned hrecords.unplanned feature hget, Database.entriesFor,
    hregistry]

theorem Records.missing (hrecords : Records events h) (session : Session) (feature : Feature)
    (hmissing : h.catalog.exists? session.database = false) :
    standing session.database events = [] ∧
      Dialog.featureEntries feature ⟨session, h⟩ =
        (.failed (noDatabase session.database), ⟨session, h⟩) := by
  have hget : h.catalog.databases.get? session.database = none :=
    Option.isNone_iff_eq_none.mp (by simpa [Catalog.exists?, Dict.contains] using hmissing)
  constructor
  · rw [← hrecords.registry_eq, hget, Database.registry]
  · rw [Dialog.featureEntries, Dialog.strike_bind hrecords.unplanned, Attempt.bind_apply,
      Dialog.database_of_missing hget]

/-- Whatever calls are made, from no database on, the answers tell what there is: each
database has the registrations that were made and not ended since, and what it has is sound. -/
theorem administer_faithful (h : Host) (calls : List CatalogCall) :
    (administer calls h.cleared).1.map (·.call) = calls ∧
      Faithful (administer calls h.cleared).1 (administer calls h.cleared).2 := by
  have hrecords : Records (administer calls h.cleared).1 (administer calls h.cleared).2 :=
    (Records.cleared h).administer calls
  refine ⟨map_call_administer calls h.cleared, ?_⟩
  exact {
    database_eq := hrecords.database_eq
    sound := hrecords.sound
    listed := hrecords.listed
    missing := hrecords.missing
    granted_iff := isDone_attempt_iff
    refused := fun _ => attempt_of_not_isDone
    recreated := fun _ => attempt_createDatabase_of_exists }

/-- One procedure is taken back and registered again behind the other, which is already
there when it is registered once more. -/
def takenBack : List CatalogCall :=
  [.order (.createDatabase "db"), .order (.install "db"),
    .define "db" "auth" "first" fun _ => .finish (.done .void),
    .define "db" "auth" "second" fun _ => .finish (.done .void),
    .order (.register "db" .clientauth "auth" "first"),
    .order (.register "db" .clientauth "auth" "second"),
    .order (.unregister "db" .clientauth "auth" "first"),
    .order (.register "db" .clientauth "auth" "first"),
    .order (.register "db" .clientauth "auth" "second")]

theorem standing_takenBack :
    standing "db" (administer takenBack (default : Host).cleared).1 =
      [⟨.clientauth, "auth", "second"⟩, ⟨.clientauth, "auth", "first"⟩] := by
  rfl

/-- What was registered again is told last. -/
theorem administer_faithful_takenBack :
    let after := (administer takenBack (default : Host).cleared).2
    after.catalog.exists? "db" = true ∧
      Dialog.featureEntries .clientauth ⟨⟨"db", []⟩, after⟩ =
        (.done [("auth", "second"), ("auth", "first")], ⟨⟨"db", []⟩, after⟩) := by
  intro after
  have hexists : after.catalog.exists? "db" = true := by rfl
  have hlisted := (administer_faithful default takenBack).2.listed ⟨"db", []⟩ .clientauth hexists
  rw [standing_takenBack] at hlisted
  exact ⟨hexists, hlisted⟩

end Host

end Admission
