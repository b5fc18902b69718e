import Admission.Procedure.Policy
import Admission.Proofs.Procedure.Frame
import Admission.Proofs.Session.Dialog
import Admission.Proofs.Strike

set_option autoImplicit false

/-!
# Faults in a session

Every call of a session meets its planned fault before anything else, so all that is
made of such calls depends on the plan only through the faults that strike: a decision
from the catalog and a call of a procedure are not done when one strikes, and procedures
run in isolation have raised an error.
-/

namespace Admission

open Exposed Attempt

/-! ## On the host -/

instance : Exposed Host where
  faults := Host.faults
  cleared h := { h with faults := .none }
  faults_cleared _ := rfl
  cleared_eq_self h hf := by rw [← hf]

namespace Host

theorem strike_of_none {point : FaultPoint} {h : Host} (hnext : (h.faults.next point).1 = none) :
    strike point h = (.done (), { h with faults := (h.faults.next point).2 }) := by
  simp [strike, hnext]

theorem strike_of_some {point : FaultPoint} {h : Host} {fault : Fault}
    (hnext : (h.faults.next point).1 = some fault) :
    strike point h = (fault.ending, { h with faults := (h.faults.next point).2 }) := by
  simp [strike, hnext]

theorem orderly_strike (point : FaultPoint) : (strike point).Orderly := by
  refine ⟨⟨⟨fun h => ?_, fun h => h.faults.narrows_next point⟩, fun h hstruck a => ?_⟩,
    fun h hplan p => ?_⟩
  all_goals
    have hthreats := h.faults.threats_next point
    cases hnext : (h.faults.next point).1 with
    | none => ?_
    | some fault => ?_
  all_goals rw [hnext] at hthreats
  · have hcleared : strike point (cleared h) = (.done (), cleared h) :=
      strike_of_unplanned rfl point
    refine .inr ⟨?_, ?_⟩
    · rw [strike_of_none hnext]
      exact hthreats
    · rw [hcleared, strike_of_none hnext]
      rfl
  · refine .inl ?_
    rw [Struck, strike_of_some hnext]
    exact Nat.lt_of_succ_le (Nat.le_of_eq hthreats)
  · rw [Struck, strike_of_none hnext] at hstruck
    exact absurd hthreats (Nat.ne_of_lt hstruck)
  · rw [strike_of_some hnext]
    cases fault <;> rintro ⟨⟩
  · rw [strike_of_none hnext]
    rintro ⟨⟩
  · rw [strike_of_some hnext]
    cases fault with
    | error message => rintro ⟨⟩
    | panic message => exact absurd (FaultPlan.holds_of_next hnext) (hplan point message)

theorem aloof_order (o : CatalogOrder) : (order o).Aloof := by
  refine ⟨faults_order o, fun h => ?_⟩
  have hcatalog : (cleared h).catalog = h.catalog := rfl
  simp only [order, Attempt.ofExcept, hcatalog]
  cases h.catalog.obey o <;> rfl

theorem aloof_define (database schema name : String) (body : Procedure) :
    (define database schema name body).Aloof := by
  refine ⟨faults_define database schema name body, fun h => ?_⟩
  have hcatalog : (cleared h).catalog = h.catalog := rfl
  simp only [define, Attempt.ofExcept, hcatalog]
  cases h.catalog.define database schema name body <;> rfl

theorem orderly_databaseExists (name : String) : (databaseExists name).Orderly :=
  (orderly_strike _).bind fun _ => orderly_gets fun _ => rfl

theorem orderly_connect (database : String) : (connect database).Orderly := by
  refine (orderly_strike _).bind fun _ => orderly_ofExcept (fun h session h' => ?_) fun h => ?_
  · cases h.catalog.database? database with
    | error e => nofun
    | ok db => rintro ⟨⟩; rfl
  · have hcatalog : (cleared h).catalog = h.catalog := rfl
    rw [hcatalog]
    cases h.catalog.database? database <;> rfl

theorem connect_host (database : String) (h : Host) :
    ∃ plan : FaultPlan, (connect database h).2 = { h with faults := plan } := by
  have hstrike : (strike .connect h).2 = { h with faults := (h.faults.next .connect).2 } := rfl
  refine ⟨(h.faults.next .connect).2, ?_⟩
  rw [connect, bind_apply]
  generalize strike .connect h = struck at hstrike
  obtain ⟨ending, h'⟩ := struck
  cases ending with
  | failed e => exact hstrike
  | unwound p => exact hstrike
  | done _ =>
    dsimp only at hstrike ⊢
    rw [Attempt.ofExcept]
    cases h'.catalog.database? database <;> exact hstrike

theorem connect_session (database : String) (h : Host) (session : Session)
    (hdone : (connect database h).1 = .done session) : session = ⟨database, []⟩ := by
  rw [connect, bind_apply] at hdone
  generalize strike .connect h = struck at hdone
  obtain ⟨ending, h'⟩ := struck
  cases ending with
  | failed e => cases hdone
  | unwound p => cases hdone
  | done _ =>
    dsimp only at hdone
    rw [Attempt.ofExcept] at hdone
    cases hdb : h'.catalog.database? database with
    | error e => rw [hdb] at hdone; cases hdone
    | ok db => rw [hdb] at hdone; cases hdone; rfl

theorem databaseExists_host (name : String) (h : Host) :
    ∃ plan : FaultPlan, (databaseExists name h).2 = { h with faults := plan } := by
  have hstrike : (strike .databaseExists h).2 =
      { h with faults := (h.faults.next .databaseExists).2 } := rfl
  refine ⟨(h.faults.next .databaseExists).2, ?_⟩
  rw [databaseExists, bind_apply]
  generalize strike .databaseExists h = struck at hstrike
  obtain ⟨ending, h'⟩ := struck
  cases ending <;> exact hstrike

end Host

/-! ## In the session -/

instance : Exposed Dialog where
  faults d := d.host.faults
  cleared d := { d with host := cleared d.host }
  faults_cleared _ := rfl
  cleared_eq_self d hf := by rw [cleared_eq_self d.host hf]

namespace Dialog

variable {α : Type}

theorem holdsPlan_host : HoldsPlan Dialog.host fun d h => { d with host := h } :=
  ⟨fun _ => rfl, fun _ _ => rfl, fun _ => rfl, fun _ _ => rfl⟩

theorem orderly_strike (point : FaultPoint) : (onHost (Host.strike point)).Orderly :=
  (Host.orderly_strike point).onPart holdsPlan_host

theorem orderly_step (f : Session → Except BackendError Session) : (step f).Orderly := by
  refine orderly_ofExcept (fun d u d' => ?_) fun d => ?_
  · cases f d.session with
    | error e => nofun
    | ok s => rintro ⟨⟩; rfl
  · have hsession : (cleared d).session = d.session := rfl
    rw [hsession]
    cases f d.session <;> rfl

theorem orderly_database : database.Orderly := by
  refine orderly_ofExcept (fun d db d' => ?_) fun d => ?_
  · cases d.host.catalog.database? d.session.database with
    | error e => nofun
    | ok found => rintro ⟨⟩; rfl
  · have hdatabase : (cleared d).host.catalog.database? (cleared d).session.database =
        d.host.catalog.database? d.session.database := rfl
    rw [hdatabase]
    cases d.host.catalog.database? d.session.database <;> rfl

theorem orderly_begin : begin.Orderly :=
  (orderly_strike _).bind fun _ => orderly_step _

theorem orderly_beginSub : beginSub.Orderly :=
  (orderly_strike _).bind fun _ => orderly_step _

theorem orderly_releaseSub : releaseSub.Orderly :=
  (orderly_strike _).bind fun _ => orderly_step _

theorem orderly_close : close.Orderly := by
  refine Aloof.orderly ⟨fun d => ?_, fun d => ?_⟩ fun d p => ?_
  · simp only [close]
    split
    · rfl
    · split <;> rfl
  · have hlayers : (cleared d).session.layers = d.session.layers := rfl
    have hcommit : (cleared d).session.commitTo? (cleared d).host.catalog =
        d.session.commitTo? d.host.catalog := rfl
    simp only [close, hlayers, hcommit]
    split
    · rfl
    · split <;> rfl
  · simp only [close]
    split
    · rintro ⟨⟩
    · split <;> rintro ⟨⟩

theorem orderly_commit : commit.Orderly :=
  (orderly_strike _).bind fun _ => orderly_close

theorem orderly_rollback : rollback.Orderly :=
  orderly_modify (fun _ => rfl) fun _ => rfl

theorem orderly_rollbackSub : rollbackSub.Orderly :=
  orderly_modify (fun _ => rfl) fun _ => rfl

theorem orderly_catalogInstalled : catalogInstalled.Orderly :=
  (orderly_strike _).bind fun _ => orderly_database.bind fun _ => orderly_pure _

theorem orderly_featureEntries (feature : Feature) : (featureEntries feature).Orderly :=
  (orderly_strike _).bind fun _ => orderly_database.bind fun _ => orderly_pure _

theorem orderly_registered (feature : Feature) : (registered feature).Orderly := by
  refine (orderly_featureEntries feature).bind fun entries =>
    orderly_ofExcept (fun d names d' => ?_) fun d => ?_
  all_goals cases entries.mapM fun (schema, name) => QualifiedName.of? feature schema name
  · nofun
  · rintro ⟨⟩; rfl
  · rfl
  · rfl

/-- Looking at the catalog ends as the faults say that strike it. -/
theorem orderly_evaluate (feature : Feature) (mode : Mode) : (evaluate feature mode).Orderly := by
  unfold evaluate
  split
  · exact orderly_pure _
  · refine orderly_catalogInstalled.bind fun installed => ?_
    split
    · exact orderly_pure _
    · refine (orderly_registered feature).bind fun procedures => ?_
      split <;> exact orderly_pure _

/-! ## Programs, step by step -/

section Perform

/-- A step of the host as a program meets it: its error is an answer. -/
def asking (x : Attempt Host Unit) : Attempt Dialog (Option BackendError) :=
  fun d => (.done (answered x d).1, (answered x d).2)

theorem perform_get (key : String) (next : Option String → Program) :
    perform (.get key next) =
      .gets (fun d => d.session.get? d.host.catalog key) >>= fun v => perform (next v) := rfl

theorem perform_put (key value : String) (next : Unit → Program) :
    perform (.put key value next) =
      .modify (·.write (key, some value)) >>= fun _ => perform (next ()) := rfl

theorem perform_delete (key : String) (next : Unit → Program) :
    perform (.delete key next) =
      .modify (·.write (key, none)) >>= fun _ => perform (next ()) := rfl

theorem perform_trace (line : String) (next : Unit → Program) :
    perform (.trace line next) =
      .modify (fun d => { d with host := { d.host with trace := d.host.trace ++ [line] } }) >>=
        fun _ => perform (next ()) := rfl

theorem perform_order (o : CatalogOrder) (next : Option BackendError → Program) :
    perform (.order o next) = asking (Host.order o) >>= fun e => perform (next e) := rfl

theorem perform_define (database schema name : String) (body : Procedure)
    (next : Option BackendError → Program) :
    perform (.define database schema name body next) =
      asking (Host.define database schema name body) >>= fun e => perform (next e) := rfl

theorem perform_databaseExists (database : String) (next : Bool → Program) :
    perform (.databaseExists database next) =
      onHost (Host.databaseExists database) >>= fun b => perform (next b) := by
  funext d
  rw [Attempt.bind_apply, onHost, Attempt.onPart_apply]
  simp only [perform]
  generalize Host.databaseExists database d.host = result
  obtain ⟨ending, h⟩ := result
  cases ending <;> rfl

/-- A change of a slot of the table of this name, if there is one. -/
def changing (table : String) (slot : Nat) (change : SlotChange) : Attempt Dialog Unit := fun d =>
  match d.host.tables.get? table with
  | none => (.done (), d)
  | some t => onHost (Host.changeSlot t slot change) d

theorem perform_changeSlot (table : String) (slot : Nat) (change : SlotChange)
    (next : Unit → Program) :
    perform (.changeSlot table slot change next) =
      changing table slot change >>= fun _ => perform (next ()) := by
  funext d
  rw [Attempt.bind_apply, changing]
  simp only [perform]
  cases d.host.tables.get? table with
  | none => rfl
  | some t =>
    simp only [onHost, Attempt.onPart_apply]
    generalize Host.changeSlot t slot change d.host = result
    obtain ⟨ending, h⟩ := result
    cases ending <;> rfl

end Perform

/-! ## Calls -/

theorem aloof_asking {x : Attempt Host Unit} (hx : x.Aloof) : (asking x).Aloof := by
  refine ⟨fun d => ?_, fun d => ?_⟩
  · rw [asking, answered_snd]
    exact hx.faults_eq d.host
  · have hcleared : x (cleared d).host = ((x d.host).1, cleared (x d.host).2) :=
      hx.cleared_eq d.host
    simp only [asking, answered, hcleared]
    generalize x d.host = result
    obtain ⟨ending, h⟩ := result
    cases ending <;> rfl

theorem aloof_changing (table : String) (slot : Nat) (change : SlotChange) :
    (changing table slot change).Aloof := by
  refine ⟨fun d => ?_, fun d => ?_⟩
  · unfold changing
    split <;> rfl
  · have htables : (cleared d).host.tables = d.host.tables := rfl
    simp only [changing, htables]
    split
    · rfl
    · rfl

theorem candid_perform (p : Program) : (perform p).Candid := by
  -- Of all steps only the question for a database passes a fault point.
  induction p with
  | finish ending => exact (aloof_conclude ending).candid
  | get key next ih =>
    rw [perform_get]
    exact (orderly_gets fun _ => rfl).candid.bind ih
  | put key value next ih =>
    rw [perform_put]
    refine (orderly_modify ?_ ?_).candid.bind fun _ => ih () <;> exact fun _ => rfl
  | delete key next ih =>
    rw [perform_delete]
    refine (orderly_modify ?_ ?_).candid.bind fun _ => ih () <;> exact fun _ => rfl
  | trace line next ih =>
    rw [perform_trace]
    refine (orderly_modify ?_ ?_).candid.bind fun _ => ih () <;> exact fun _ => rfl
  | order o next ih =>
    rw [perform_order]
    exact (aloof_asking (Host.aloof_order o)).candid.bind ih
  | define database schema name body next _ ih =>
    rw [perform_define]
    exact (aloof_asking (Host.aloof_define database schema name body)).candid.bind ih
  | databaseExists database next ih =>
    rw [perform_databaseExists]
    exact ((Host.orderly_databaseExists database).onPart holdsPlan_host).candid.bind ih
  | changeSlot table slot change next ih =>
    rw [perform_changeSlot]
    exact (aloof_changing table slot change).candid.bind fun _ => ih ()

/-- A call that a fault strikes is not done; it may panic as the procedure likes. -/
theorem candid_call (procedure : QualifiedName) (args : Args) : (call procedure args).Candid := by
  refine (orderly_strike _).candid.bind fun _ => ?_
  refine (orderly_gets fun _ => rfl).candid.bind fun depth => ?_
  split
  · exact (aloof_conclude _).candid
  · refine orderly_database.candid.bind fun db => ?_
    split
    · exact (aloof_conclude _).candid
    · exact candid_perform _

theorem candid_callInOrder (args : Args) (procedures : List QualifiedName) :
    (callInOrder args procedures).Candid := by
  induction procedures with
  | nil => exact (orderly_pure none).candid
  | cons p rest ih =>
    refine (candid_call p args).bind fun o => ?_
    split
    · exact (orderly_pure _).candid
    · exact ih

end Dialog

end Admission
