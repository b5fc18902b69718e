import Admission.Procedure.Policy
import Admission.Proofs.Procedure.Hearing

set_option autoImplicit false

/-!
# What the catalog asks for, case by case

An entry of the catalog names a procedure when both its parts are there and free of
`;`, and the first part that is not gives the error.  The decision whether procedures
have to run depends on the mode, on what is installed and on the entries alone.
-/

namespace Admission

/-! ## Entries -/

/-- What is wrong with a part of a name. -/
def NamePart.flaw? (feature : Feature) (part : String) : Option BackendError :=
  if part = "" then some (QualifiedName.missingPart feature)
  else if ';' ∈ part.toList then some (QualifiedName.unsafePart feature)
  else none

/-- What is wrong with the first part, in the order of the entries, that anything is wrong
with. -/
def firstFlaw? (feature : Feature) (entries : List (String × String)) : Option BackendError :=
  (entries.flatMap fun e => [e.1, e.2]).findSome? (NamePart.flaw? feature)

namespace QualifiedName

variable {feature : Feature} {part schema name : String} {e : BackendError}

theorem checkPart_of_flaw (h : NamePart.flaw? feature part = some e) :
    checkPart feature part = .error e := by
  unfold NamePart.flaw? at h
  by_cases hempty : part = ""
  · have hpresent : ¬ NamePart.Present part := fun hpresent => hpresent hempty
    rw [if_pos hempty] at h
    rw [checkPart, dif_neg hpresent, Option.some.inj h]
  · have hpresent : NamePart.Present part := hempty
    by_cases hunsafe : ';' ∈ part.toList
    · have hsafe : ¬ NamePart.Safe part := fun hsafe => hsafe hunsafe
      rw [if_neg hempty, if_pos hunsafe] at h
      rw [checkPart, dif_pos hpresent, dif_neg hsafe, Option.some.inj h]
    · rw [if_neg hempty, if_neg hunsafe] at h
      cases h

theorem checkPart_of_sound (h : NamePart.flaw? feature part = none) :
    ∃ proof : NamePart.Present part ∧ NamePart.Safe part,
      checkPart feature part = .ok ⟨proof⟩ := by
  unfold NamePart.flaw? at h
  by_cases hempty : part = ""
  · rw [if_pos hempty] at h
    cases h
  · have hpresent : NamePart.Present part := hempty
    by_cases hunsafe : ';' ∈ part.toList
    · rw [if_neg hempty, if_pos hunsafe] at h
      cases h
    · have hsafe : NamePart.Safe part := hunsafe
      exact ⟨⟨hpresent, hsafe⟩, by rw [checkPart, dif_pos hpresent, dif_pos hsafe]⟩

theorem of?_of_schema_flaw (h : NamePart.flaw? feature schema = some e) :
    of? feature schema name = .error e := by
  rw [of?, checkPart_of_flaw h]
  rfl

theorem of?_of_name_flaw (hs : NamePart.flaw? feature schema = none)
    (h : NamePart.flaw? feature name = some e) : of? feature schema name = .error e := by
  obtain ⟨_, hschema⟩ := checkPart_of_sound hs
  rw [of?, hschema, checkPart_of_flaw h]
  rfl

theorem of?_of_sound (hs : NamePart.flaw? feature schema = none)
    (hn : NamePart.flaw? feature name = none) :
    ∃ n : QualifiedName, of? feature schema name = .ok n ∧ n.key = (schema, name) := by
  obtain ⟨schemaOk, hschema⟩ := checkPart_of_sound hs
  obtain ⟨nameOk, hname⟩ := checkPart_of_sound hn
  refine ⟨⟨schema, name, schemaOk, nameOk⟩, ?_, rfl⟩
  rw [of?, hschema, hname]
  rfl

end QualifiedName

/-- Entries name procedures if nothing is wrong with them, and give the first error
otherwise. -/
theorem mapM_of?_eq (feature : Feature) (entries : List (String × String)) :
    match firstFlaw? feature entries with
    | some e =>
      entries.mapM (fun (schema, name) => QualifiedName.of? feature schema name) = .error e
    | none => ∃ names : List QualifiedName, names.map (·.key) = entries ∧
        entries.mapM (fun (schema, name) => QualifiedName.of? feature schema name) = .ok names := by
  induction entries with
  | nil => exact ⟨[], rfl, rfl⟩
  | cons entry rest ih =>
    obtain ⟨schema, name⟩ := entry
    have hfirst : firstFlaw? feature ((schema, name) :: rest) =
        ((NamePart.flaw? feature schema).or (NamePart.flaw? feature name)).or
          (firstFlaw? feature rest) := by
      simp only [firstFlaw?, List.flatMap_cons, List.cons_append, List.nil_append,
        List.findSome?_cons]
      cases NamePart.flaw? feature schema <;> cases NamePart.flaw? feature name <;> rfl
    rw [hfirst, List.mapM_cons]
    cases hs : NamePart.flaw? feature schema with
    | some e =>
      simp only [Option.some_or, QualifiedName.of?_of_schema_flaw hs]
      rfl
    | none =>
      cases hn : NamePart.flaw? feature name with
      | some e =>
        simp only [Option.none_or, Option.some_or, QualifiedName.of?_of_name_flaw hs hn]
        rfl
      | none =>
        obtain ⟨n, hof, hkey⟩ := QualifiedName.of?_of_sound hs hn
        simp only [Option.none_or, hof]
        cases hrest : firstFlaw? feature rest with
        | some e =>
          rw [hrest] at ih
          simp only at ih ⊢
          rw [ih]
          rfl
        | none =>
          rw [hrest] at ih
          obtain ⟨names, hnames, hmap⟩ := ih
          refine ⟨n :: names, by rw [List.map_cons, hkey, hnames], ?_⟩
          rw [hmap]
          rfl

/-! ## The decision, where no fault is planned -/

namespace Dialog

open Attempt

variable {d : Dialog} {feature : Feature} {mode : Mode} {db : Database}

section Unplanned

variable (hf : d.host.faults = .none)

include hf

theorem catalogInstalled_of_unplanned
    (hdb : d.host.catalog.databases.get? d.session.database = some db) :
    catalogInstalled d = (.done db.catalogInstalled, d) := by
  rw [catalogInstalled, strike_bind hf, bind_of_done (database_of_get? hdb)]
  rfl

theorem evaluate_of_missing (feature : Feature) (hmode : mode ≠ .off)
    (hdb : d.host.catalog.databases.get? d.session.database = none) :
    evaluate feature mode d = (.failed (noDatabase d.session.database), d) := by
  have hinstalled : catalogInstalled d = (.failed (noDatabase d.session.database), d) := by
    rw [catalogInstalled, strike_bind hf, bind_apply, database_of_missing hdb]
  rw [evaluate, if_neg hmode, bind_apply, hinstalled]

theorem evaluate_of_bare (hmode : mode ≠ .off)
    (hdb : d.host.catalog.databases.get? d.session.database = some db)
    (hbare : db.catalogInstalled = false) :
    evaluate feature mode d = (.done (mode.missing .catalogMissing .catalogMissing), d) := by
  rw [evaluate, if_neg hmode, bind_of_done (catalogInstalled_of_unplanned hf hdb), hbare]
  rfl

theorem featureEntries_of_unplanned (feature : Feature)
    (hdb : d.host.catalog.databases.get? d.session.database = some db) :
    featureEntries feature d = (.done (db.entriesFor feature), d) := by
  rw [featureEntries, strike_bind hf, bind_of_done (database_of_get? hdb)]
  rfl

theorem registered_of_flaw (hdb : d.host.catalog.databases.get? d.session.database = some db)
    {e : BackendError} (hflaw : firstFlaw? feature (db.entriesFor feature) = some e) :
    registered feature d = (.failed e, d) := by
  have hmap := mapM_of?_eq feature (db.entriesFor feature)
  rw [hflaw] at hmap
  dsimp only at hmap
  rw [registered, bind_of_done (featureEntries_of_unplanned hf feature hdb), Attempt.ofExcept, hmap]
  rfl

theorem registered_of_sound (hdb : d.host.catalog.databases.get? d.session.database = some db)
    (hsound : firstFlaw? feature (db.entriesFor feature) = none) :
    ∃ names : List QualifiedName, names.map (·.key) = db.entriesFor feature ∧
      registered feature d = (.done names, d) := by
  have hmap := mapM_of?_eq feature (db.entriesFor feature)
  rw [hsound] at hmap
  obtain ⟨names, hnames, hmap⟩ := hmap
  refine ⟨names, hnames, ?_⟩
  rw [registered, bind_of_done (featureEntries_of_unplanned hf feature hdb), Attempt.ofExcept, hmap]
  rfl

theorem evaluate_of_flaw (hmode : mode ≠ .off)
    (hdb : d.host.catalog.databases.get? d.session.database = some db)
    (hinstalled : db.catalogInstalled = true) {e : BackendError}
    (hflaw : firstFlaw? feature (db.entriesFor feature) = some e) :
    evaluate feature mode d = (.failed e, d) := by
  rw [evaluate, if_neg hmode, bind_of_done (catalogInstalled_of_unplanned hf hdb), hinstalled]
  rw [if_neg (by decide), bind_apply, registered_of_flaw hf hdb hflaw]

theorem evaluate_of_sound (hmode : mode ≠ .off)
    (hdb : d.host.catalog.databases.get? d.session.database = some db)
    (hinstalled : db.catalogInstalled = true)
    (hsound : firstFlaw? feature (db.entriesFor feature) = none) :
    ∃ names : List QualifiedName, names.map (·.key) = db.entriesFor feature ∧
      evaluate feature mode d =
        (.done (if names = [] then mode.missing .noProcedures .noProcedures else .run names),
          d) := by
  obtain ⟨names, hnames, hregistered⟩ := registered_of_sound hf hdb hsound
  refine ⟨names, hnames, ?_⟩
  rw [evaluate, if_neg hmode, bind_of_done (catalogInstalled_of_unplanned hf hdb), hinstalled]
  rw [if_neg (by decide), bind_of_done hregistered]
  cases names <;> rfl

end Unplanned

/-! ## Whatever is planned -/

/-- However the attempt ends, it changes nothing but what is planned. -/
def Looks {α : Type} (x : Attempt Dialog α) : Prop :=
  ∀ d : Dialog, (x d).2.session = d.session ∧
    ∃ plan : FaultPlan, (x d).2.host = { d.host with faults := plan }

section Looks

variable {α β : Type}

theorem looks_of_eq {x : Attempt Dialog α} (h : ∀ d : Dialog, (x d).2 = d) : Looks x :=
  fun d => ⟨by rw [h], d.host.faults, by rw [h]⟩

theorem Looks.bind {x : Attempt Dialog α} {f : α → Attempt Dialog β} (hx : Looks x)
    (hf : ∀ a : α, Looks (f a)) : Looks (x >>= f) := by
  refine rel_bind (R := fun d d' : Dialog => d'.session = d.session ∧
    ∃ plan : FaultPlan, d'.host = { d.host with faults := plan }) ?_ hx hf
  rintro _ _ _ ⟨hsession, _, hhost⟩ ⟨hsession', plan, hhost'⟩
  exact ⟨hsession'.trans hsession, plan, by rw [hhost', hhost]⟩

theorem looks_strike (point : FaultPoint) : Looks (onHost (Host.strike point)) :=
  fun _ => ⟨rfl, _, rfl⟩

theorem looks_database : Looks database := by
  refine looks_of_eq fun d => ?_
  rw [database, Attempt.ofExcept]
  cases d.host.catalog.database? d.session.database <;> rfl

theorem looks_registered (feature : Feature) : Looks (registered feature) := by
  refine Looks.bind ?_ fun entries => looks_of_eq fun d => ?_
  · exact (looks_strike _).bind fun _ => looks_database.bind fun _ => looks_of_eq fun _ => rfl
  · rw [Attempt.ofExcept]
    cases entries.mapM fun (schema, name) => QualifiedName.of? feature schema name <;> rfl

theorem looks_evaluate (feature : Feature) (mode : Mode) : Looks (evaluate feature mode) := by
  unfold evaluate
  split
  · exact looks_of_eq fun _ => rfl
  · refine Looks.bind ?_ fun installed => ?_
    · exact (looks_strike _).bind fun _ => looks_database.bind fun _ => looks_of_eq fun _ => rfl
    · split
      · exact looks_of_eq fun _ => rfl
      · refine (looks_registered feature).bind fun procedures => ?_
        split <;> exact looks_of_eq fun _ => rfl

end Looks

/-! ## What a look that is done has found -/

section Finds

open Exposed

variable {d' : Dialog} {asked : CatalogCheck}

/-- What a mode other than `off` asks for in a database. -/
inductive Finds (feature : Feature) (mode : Mode) (db : Database) : CatalogCheck → Prop where
  | accept {reason : AcceptReason} (hmode : mode = .on)
      (hbare : db.catalogInstalled = false ∨ db.entriesFor feature = []) :
      Finds feature mode db (.accept reason)
  | reject {failure : RequireFailure} (hmode : mode = .require)
      (hbare : db.catalogInstalled = false ∨ db.entriesFor feature = []) :
      Finds feature mode db (.reject failure)
  | run {names : List QualifiedName} (hnames : names.map (·.key) = db.entriesFor feature)
      (hne : names ≠ []) : Finds feature mode db (.run names)

theorem finds_missing (hmode : mode ≠ .off)
    (hbare : db.catalogInstalled = false ∨ db.entriesFor feature = []) (failure : RequireFailure)
    (reason : AcceptReason) : Finds feature mode db (mode.missing failure reason) := by
  cases mode with
  | off => exact absurd rfl hmode
  | on => exact .accept rfl hbare
  | require => exact .reject rfl hbare

/-- A look that is done was taken in a database that is there, and finds what it asks for. -/
theorem finds_of_evaluate (hmode : mode ≠ .off)
    (hasked : evaluate feature mode d = (.done asked, d')) :
    ∃ db : Database, d.host.catalog.databases.get? d.session.database = some db ∧
      Finds feature mode db asked := by
  -- A look that is done was spared, so it is the one that is taken where nothing is planned.
  have hlook := ((orderly_evaluate feature mode).candid.spared_of_done
    (congrArg Prod.fst hasked)).cleared_eq
  rw [hasked] at hlook
  have hf : (cleared d).host.faults = .none := rfl
  cases hdb : d.host.catalog.databases.get? d.session.database with
  | none =>
    rw [evaluate_of_missing hf feature hmode hdb] at hlook
    cases hlook
  | some db =>
    refine ⟨db, rfl, ?_⟩
    have hcleared : (cleared d).host.catalog.databases.get?
        (cleared d).session.database = some db := hdb
    cases hinstalled : db.catalogInstalled with
    | false =>
      rw [evaluate_of_bare hf hmode hcleared hinstalled] at hlook
      rw [← Ending.done.inj (congrArg Prod.fst hlook)]
      exact finds_missing hmode (.inl hinstalled) _ _
    | true =>
      cases hflaw : firstFlaw? feature (db.entriesFor feature) with
      | some e =>
        rw [evaluate_of_flaw hf hmode hcleared hinstalled hflaw] at hlook
        cases hlook
      | none =>
        obtain ⟨names, hnames, hsound⟩ := evaluate_of_sound hf hmode hcleared hinstalled hflaw
        rw [hsound] at hlook
        rw [← Ending.done.inj (congrArg Prod.fst hlook)]
        split
        · rename_i hnil
          rw [hnil] at hnames
          exact finds_missing hmode (.inr hnames.symm) _ _
        · rename_i hne
          exact .run hnames hne

end Finds

end Dialog

end Admission
