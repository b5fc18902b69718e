import Admission.Proofs.Procedure.Calls

set_option autoImplicit false

/-!
# What a run in isolation comes to

In an open transaction procedures that write only through it come to the same in a run
in isolation as they do one after another on the values that the session sees: as many
of them as it takes to hear one out, each on the values that those before it left.  The
last call decides, and unless it went wrong the session sees the values it left.
-/

namespace Admission

open Attempt

/-! ## On values -/

/-- The lines a program leaves, told along `Program.play`. -/
def Program.lines : Program → Values → List String
  | .finish _, _ => []
  | .get key next, v => lines (next (v key)) v
  | .put key value next, v => lines (next ()) fun k => if k = key then some value else v k
  | .delete key next, v => lines (next ()) fun k => if k = key then none else v k
  | .trace line next, v => line :: lines (next ()) v
  | .order _ next, v => lines (next none) v
  | .define _ _ _ _ next, v => lines (next none) v
  | .databaseExists _ next, v => lines (next false) v
  | .changeSlot _ _ _ next, v => lines (next ()) v

/-- What some calls come to. -/
structure Course where
  /-- How each call ends. -/
  endings : List (Ending Output)
  /-- The values the last call leaves. -/
  values : Values
  /-- The lines all of them leave. -/
  lines : List String

namespace Catalog

/-- What a call in a database comes to: how it ends, and the values it leaves. -/
def answer (c : Catalog) (database : String) (args : Args) (name : String × String)
    (v : Values) : Ending Output × Values :=
  match c.databases.get? database with
  | none => (.failed (noDatabase database), v)
  | some db => db.answer args name v

/-- The lines that a call in a database leaves. -/
def linesOf (c : Catalog) (database : String) (args : Args) (name : String × String)
    (v : Values) : List String :=
  match (c.databases.get? database).bind (·.procedures.get? name) with
  | none => []
  | some body => (body args).lines v

/-- What calls one after another come to, each on the values that the one before left. -/
def course (c : Catalog) (database : String) (args : Args) :
    List (String × String) → Values → Course
  | [], v => ⟨[], v, []⟩
  | name :: rest, v =>
    let (ending, left) := c.answer database args name v
    let later := c.course database args rest left
    ⟨ending :: later.endings, later.values, c.linesOf database args name v ++ later.lines⟩

theorem course_cons (c : Catalog) (database : String) (args : Args) (name : String × String)
    (rest : List (String × String)) (v : Values) :
    c.course database args (name :: rest) v =
      ⟨(c.answer database args name v).1 ::
          (c.course database args rest (c.answer database args name v).2).endings,
        (c.course database args rest (c.answer database args name v).2).values,
        c.linesOf database args name v ++
          (c.course database args rest (c.answer database args name v).2).lines⟩ := rfl

end Catalog

/-! ## In a session -/

namespace Dialog

variable {d : Dialog} {args : Args}

/-- The host with some lines more in its trace. -/
def traced (d : Dialog) (lines : List String) : Host :=
  { d.host with trace := d.host.trace ++ lines }

theorem traced_nil (d : Dialog) : d.traced [] = d.host := by
  simp [traced]

/-- Of the host a transactional program touches the trace, and leaves its lines there. -/
theorem perform_host_of_transactional {p : Program} (h : p.Transactional)
    (hopen : d.session.layers ≠ []) :
    (perform p d).2.host = d.traced (p.lines d.values) := by
  induction h generalizing d with
  | finish ending => exact (traced_nil d).symm
  | get _ ih => exact ih _ hopen
  | @put key value next _ ih =>
    have hstep := ih (d := d.write (key, some value))
      ((within_write d _).session.open_of_open hopen)
    rw [values_write hopen] at hstep
    exact hstep
  | @delete key next _ ih =>
    have hstep := ih (d := d.write (key, none)) ((within_write d _).session.open_of_open hopen)
    rw [values_write hopen] at hstep
    exact hstep
  | @trace line next _ ih =>
    have hstep := ih (d := { d with host := { d.host with trace := d.host.trace ++ [line] } }) hopen
    rw [perform, hstep]
    simp [traced, Program.lines, values]

/-- A call comes to what it comes to on the values that the session sees. -/
theorem call_course (p : QualifiedName) (args : Args) (hf : d.host.faults = .none)
    (hopen : d.session.layers ≠ []) (ht : d.Transactional) :
    (call p args d).1 = (d.host.catalog.answer d.session.database args p.key d.values).1 ∧
      (call p args d).2.values =
        (d.host.catalog.answer d.session.database args p.key d.values).2 ∧
      (call p args d).2.host =
        d.traced (d.host.catalog.linesOf d.session.database args p.key d.values) := by
  unfold Catalog.answer Catalog.linesOf
  rw [call_eq, strike_bind hf]
  cases hdb : d.host.catalog.databases.get? d.session.database with
  | none =>
    rw [reach_of_missing hopen hdb]
    exact ⟨rfl, rfl, (traced_nil d).symm⟩
  | some db =>
    simp only [Option.bind_some, Database.answer]
    cases hbody : db.procedures.get? p.key with
    | none =>
      rw [reach_of_undefined hopen hdb hbody]
      exact ⟨rfl, rfl, (traced_nil d).symm⟩
    | some body =>
      rw [reach_of_defined hopen hdb hbody]
      have htransactional := ht db hdb p.key body hbody args
      obtain ⟨hending, hvalues, -⟩ := perform_of_transactional htransactional hopen
      exact ⟨hending, hvalues, perform_host_of_transactional htransactional hopen⟩

/-- Calls one after another come to what they come to on the values that the session sees. -/
theorem callEach_course (args : Args) (procedures : List QualifiedName)
    (hf : d.host.faults = .none) (hopen : d.session.layers ≠ []) (ht : d.Transactional) :
    let course := d.host.catalog.course d.session.database args (procedures.map (·.key)) d.values
    (callEach args procedures d).1 = course.endings ∧
      (callEach args procedures d).2.values = course.values ∧
      (callEach args procedures d).2.host = d.traced course.lines := by
  -- A call leaves the catalog and the database of the session as they were, so the calls
  -- behind it come to what they come to there, on the values that it left.
  induction procedures generalizing d with
  | nil => exact ⟨rfl, rfl, (traced_nil d).symm⟩
  | cons p rest ih =>
    obtain ⟨hending, hvalues, hhost⟩ := call_course p args hf hopen ht
    have hcalled := contained_call p args ht hopen
    have hrest := ih (d := (call p args d).2) (by rw [hhost]; exact hf)
      (hcalled.session.open_of_open hopen) (hcalled.transactional ht)
    rw [hcalled.catalog_eq, hcalled.session.database_eq, hvalues] at hrest
    obtain ⟨hendings, hleft, htrace⟩ := hrest
    rw [List.map_cons, callEach_cons, Catalog.course_cons]
    refine ⟨?_, hleft, ?_⟩
    · rw [hending, hendings]
    · rw [htrace, traced, traced, hhost]
      simp [traced]

/-! ## In isolation -/

/-- A run in isolation calls these procedures, and comes to what their calls come to. -/
structure ComesTo (procedures called : List QualifiedName) (args : Args) (d : Dialog)
    (course : Course) : Prop where
  heard : HeardOut procedures called course.endings
  /-- The last call decides. -/
  done : (runIsolated procedures args d).1 = .done (lastVerdict course.endings)
  host_eq : (runIsolated procedures args d).2.host = d.traced course.lines
  database_eq : (runIsolated procedures args d).2.session.database = d.session.database
  depth_eq : (runIsolated procedures args d).2.session.depth = d.session.depth
  /-- What the calls wrote is kept if nobody objected or a reason to reject was given. -/
  values_eq : (∀ e : BackendError, lastVerdict course.endings ≠ .raised e) →
    (runIsolated procedures args d).2.values = course.values
  /-- If a call went wrong, nothing of it is, nor of the calls before it. -/
  session_eq : ∀ e : BackendError, lastVerdict course.endings = .raised e →
    (runIsolated procedures args d).2.session = d.session ∧
      (runIsolated procedures args d).2.values = d.values

/-- In an open transaction with no faults planned, a run in isolation of procedures that
write only through it calls them until one objects or goes wrong, each on the values that
those before it left; what they wrote is kept unless one went wrong. -/
theorem runIsolated_comesTo (procedures : List QualifiedName) (args : Args)
    (hf : d.host.faults = .none) (hopen : d.session.layers ≠ []) (ht : d.Transactional) :
    ∃ called : List QualifiedName,
      ComesTo procedures called args d
        (d.host.catalog.course d.session.database args (called.map (·.key)) d.values) := by
  let inside : Dialog := { d with session := { d.session with layers := [] :: d.session.layers } }
  have hinside : inside.values = d.values := values_eq_of rfl rfl rfl
  obtain ⟨called, hheard, houtcome, hleft⟩ := exists_heardOut args procedures inside
  have hopen' : inside.session.layers ≠ [] := List.cons_ne_nil _ _
  obtain ⟨hendings, hvalues, hhost⟩ := callEach_course (d := inside) args called hf hopen' ht
  rw [hinside] at hendings hvalues hhost
  rw [hendings] at hheard houtcome
  have hwithin := (confined_callInOrder args procedures inside).session
  obtain ⟨top, hlayers⟩ := hwithin.layers_eq rfl
  obtain ⟨hdone, hkept, hseen⟩ := leave_of_unplanned (d := (callInOrder args procedures inside).2) d
    (by rw [hleft, hhost]; exact hf) hwithin.database_eq hlayers hopen
    (by rw [hleft, hhost]; rfl) (callInOrder args procedures inside).1
  have hrun : runIsolated procedures args d =
      leave (callInOrder args procedures inside).1 (callInOrder args procedures inside).2 := by
    rw [runIsolated_eq, bind_of_done (beginSub_of_open hf hopen)]
    rfl
  rw [← hrun] at hdone hkept hseen
  rw [houtcome] at hdone hseen
  rw [hleft] at hkept hseen
  rw [hhost] at hkept
  have hisolated := isolated_runIsolated procedures args ht hopen
  refine ⟨called, hheard, hdone, hkept, hisolated.reach.database_eq,
    hisolated.depth_eq _ hdone, ?_, ?_⟩
  · intro hfine
    rw [hseen, hvalues]
    split
    · rename_i e heq
      exact absurd heq (hfine e)
    · rfl
  · intro e hraised
    refine ⟨hisolated.session_eq e (hraised ▸ hdone), ?_⟩
    rw [hseen, hraised]

end Dialog

/-! ## A procedure that counts -/

/-- It counts its calls, and the second one gives a reason to reject a client, or raises an
error over a password. -/
def tally : Procedure := fun args =>
  .trace "called" fun _ => .get "calls" fun
    | none => .put "calls" "1" fun _ => .finish (.done .void)
    | some _ => .put "calls" "2" fun _ => .finish <|
        match args with
        | .clientauth _ _ => .done (.text (some "twice"))
        | .passcheck _ => .failed ⟨"twice", none⟩

/-- A database with this procedure. -/
def tallyDatabase : Database :=
  { procedures := ⟨[(("public", "p"), tally)]⟩ }

/-- The name of the procedure. -/
def tallyName : QualifiedName :=
  default

/-- A transaction in the database, in which a key is written already. -/
def tallying : Dialog where
  session := ⟨"db", [[("kept", some "yes")]]⟩
  host := { processes := ⟨1, []⟩, catalog := ⟨⟨[("db", tallyDatabase)]⟩⟩ }

theorem transactional_tallying : tallying.Transactional := by
  rintro db ⟨⟩ name body hbody args
  by_cases hname : name = ("public", "p")
  · subst hname
    cases hbody
    refine .trace (.get fun seen => ?_)
    cases seen with
    | none => exact .put (.finish _)
    | some _ => exact .put (.finish _)
  · rw [tallyDatabase, Dict.get?, Dict.lookup_cons_ne hname] at hbody
    cases hbody

/-- Of three procedures two are called: for a client the second one's reason counts and the
writes of both are kept, and for a password its error does and they are dropped. -/
theorem Dialog.runIsolated_tallying :
    let names := [tallyName, tallyName, tallyName]
    let client := Args.clientauth { user := "bob" } 0
    let password := Args.passcheck { user := "bob", password := "pw" }
    (∃ called : List QualifiedName,
      ComesTo names called client tallying
        (tallying.host.catalog.course "db" client (called.map (·.key)) tallying.values)) ∧
    (runIsolated names client tallying).1 = .done (.rejected "twice") ∧
    (runIsolated names client tallying).2.host.trace = ["called", "called"] ∧
    (runIsolated names client tallying).2.values "calls" = some "2" ∧
    (∃ called : List QualifiedName,
      ComesTo names called password tallying
        (tallying.host.catalog.course "db" password (called.map (·.key)) tallying.values)) ∧
    (runIsolated names password tallying).1 = .done (.raised ⟨"twice", none⟩) ∧
    (runIsolated names password tallying).2.session = tallying.session := by
  refine ⟨?_, rfl, by decide +kernel, by decide +kernel, ?_, rfl, by decide +kernel⟩
  · exact runIsolated_comesTo _ _ rfl (List.cons_ne_nil _ _) transactional_tallying
  · exact runIsolated_comesTo _ _ rfl (List.cons_ne_nil _ _) transactional_tallying

end Admission
