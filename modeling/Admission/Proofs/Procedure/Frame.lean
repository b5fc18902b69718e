import Admission.Procedure.Isolated
import Admission.Proofs.Fault

set_option autoImplicit false

/-!
# What procedures leave alone

Whatever a procedure does, it writes to the innermost level of its session and to none
below, opens and closes no level, and uses up only faults that are planned for the
calls it makes.
-/

namespace Admission

namespace Host

variable {h : Host}

theorem upcoming_strike_of_ne {point other : FaultPoint} (hne : other ≠ point) (h : Host) :
    (strike point h).2.faults.upcoming other = h.faults.upcoming other := by
  simp [strike, FaultPlan.next, FaultPlan.set, hne]

theorem faults_order (o : CatalogOrder) (h : Host) : (order o h).2.faults = h.faults := by
  simp only [order, Attempt.ofExcept]
  cases h.catalog.obey o <;> rfl

theorem faults_define (database schema name : String) (body : Procedure) (h : Host) :
    (define database schema name body h).2.faults = h.faults := by
  simp only [define, Attempt.ofExcept]
  cases h.catalog.define database schema name body <;> rfl

theorem faults_changeSlot (t : SlotTable) (index : Nat) (c : SlotChange) (h : Host) :
    (changeSlot t index c h).2.faults = h.faults := rfl

theorem upcoming_databaseExists {other : FaultPoint} (hne : other ≠ .databaseExists)
    (name : String) (h : Host) :
    (databaseExists name h).2.faults.upcoming other = h.faults.upcoming other := by
  have hstrike := upcoming_strike_of_ne hne h
  unfold databaseExists
  rw [Attempt.bind_apply]
  generalize strike .databaseExists h = struck at hstrike
  obtain ⟨ending, h'⟩ := struck
  cases ending <;> exact hstrike

end Host

/-! ## Steps of a procedure -/

/-- `after` comes from `before` by changes to the innermost level. -/
structure Session.Within (before after : Session) : Prop where
  database_eq : after.database = before.database
  depth_eq : after.depth = before.depth
  below_eq : after.layers.tail = before.layers.tail

namespace Session.Within

variable {a b c : Session}

theorem refl (s : Session) : Within s s :=
  ⟨rfl, rfl, rfl⟩

theorem trans (h₁ : Within a b) (h₂ : Within b c) : Within a c :=
  ⟨h₂.database_eq.trans h₁.database_eq, h₂.depth_eq.trans h₁.depth_eq,
    h₂.below_eq.trans h₁.below_eq⟩

/-- The levels of a session that has one are those below with a new innermost one. -/
theorem layers_eq (h : Within a b) {top : Layer} {rest : List Layer}
    (hlayers : a.layers = top :: rest) : ∃ top' : Layer, b.layers = top' :: rest := by
  have hdepth := h.depth_eq
  have hbelow := h.below_eq
  simp only [depth, hlayers] at hdepth hbelow
  cases hb : b.layers with
  | nil => simp [hb] at hdepth
  | cons top' rest' =>
    rw [hb] at hbelow
    exact ⟨top', congrArg (top' :: ·) hbelow⟩

theorem open_of_open (h : Within a b) (hopen : a.layers ≠ []) : b.layers ≠ [] := by
  obtain ⟨top, rest, hlayers⟩ := List.exists_cons_of_ne_nil hopen
  obtain ⟨top', hlayers'⟩ := h.layers_eq hlayers
  rw [hlayers']
  exact List.cons_ne_nil _ _

end Session.Within

theorem Session.within_write (s : Session) (w : Write) : Within s (s.write w) := by
  obtain ⟨database, layers⟩ := s
  cases layers <;> exact ⟨rfl, rfl, rfl⟩

namespace Dialog

/-- `after` comes from `before` without a change to what no procedure reaches. -/
structure Within (before after : Dialog) : Prop where
  session : before.session.Within after.session
  upcoming_eq : ∀ point : FaultPoint, point ≠ .databaseExists → point ≠ .call →
    after.host.faults.upcoming point = before.host.faults.upcoming point

namespace Within

variable {a b c : Dialog}

theorem refl (d : Dialog) : Within d d :=
  ⟨.refl _, fun _ _ _ => rfl⟩

theorem trans (h₁ : Within a b) (h₂ : Within b c) : Within a c :=
  ⟨h₁.session.trans h₂.session,
    fun p hp hp' => (h₂.upcoming_eq p hp hp').trans (h₁.upcoming_eq p hp hp')⟩

theorem of_host (d : Dialog) {h : Host}
    (hup : ∀ point : FaultPoint, point ≠ .databaseExists → point ≠ .call →
      h.faults.upcoming point = d.host.faults.upcoming point) :
    Within d { d with host := h } :=
  ⟨.refl _, hup⟩

end Within

theorem within_write (d : Dialog) (w : Write) : Within d (d.write w) :=
  ⟨d.session.within_write w, fun _ _ _ => rfl⟩

theorem answered_snd (x : Attempt Host Unit) (d : Dialog) :
    (answered x d).2 = { d with host := (x d.host).2 } := by
  unfold answered
  generalize x d.host = result
  obtain ⟨ending, h⟩ := result
  cases ending <;> rfl

theorem within_perform (p : Program) (d : Dialog) : Within d (perform p d).2 := by
  induction p generalizing d with
  | finish ending => exact .refl d
  | get key next ih => exact ih _ d
  | put key value next ih => exact (within_write d _).trans (ih () _)
  | delete key next ih => exact (within_write d _).trans (ih () _)
  | trace line next ih =>
    have hstep : Within d { d with host := { d.host with trace := d.host.trace ++ [line] } } :=
      .of_host d fun _ _ _ => rfl
    exact hstep.trans (ih () _)
  | order o next ih =>
    have hstep : Within d (answered (Host.order o) d).2 := by
      rw [answered_snd]
      exact .of_host d fun _ _ _ => by rw [Host.faults_order]
    exact hstep.trans (ih _ _)
  | define database schema name body next _ ih =>
    have hstep : Within d (answered (Host.define database schema name body) d).2 := by
      rw [answered_snd]
      exact .of_host d fun _ _ _ => by rw [Host.faults_define]
    exact hstep.trans (ih _ _)
  | databaseExists database next ih =>
    have hstep : Within d { d with host := (Host.databaseExists database d.host).2 } :=
      .of_host d fun _ hp _ => Host.upcoming_databaseExists hp database d.host
    simp only [perform]
    generalize Host.databaseExists database d.host = result at hstep
    obtain ⟨ending, h⟩ := result
    cases ending with
    | done b => exact hstep.trans (ih b _)
    | failed e => exact hstep
    | unwound payload => exact hstep
  | changeSlot table slot change next ih =>
    simp only [perform]
    cases d.host.tables.get? table with
    | none => exact ih () d
    | some t =>
      have hstep : Within d { d with host := (Host.changeSlot t slot change d.host).2 } :=
        .of_host d fun _ _ _ => by rw [Host.faults_changeSlot]
      simp only
      generalize Host.changeSlot t slot change d.host = result at hstep
      obtain ⟨ending, h⟩ := result
      cases ending with
      | done _ => exact hstep.trans (ih () _)
      | failed e => exact hstep
      | unwound payload => exact hstep

/-! ## Calls -/

variable {α β : Type}

/-- However the attempt ends, it stays within the reach of procedures. -/
def Confined (x : Attempt Dialog α) : Prop :=
  ∀ d : Dialog, Within d (x d).2

theorem confined_pure (a : α) : Confined (pure a : Attempt Dialog α) :=
  fun d => .refl d

theorem Confined.bind {x : Attempt Dialog α} {f : α → Attempt Dialog β} (hx : Confined x)
    (hf : ∀ a : α, Confined (f a)) : Confined (x >>= f) :=
  Attempt.rel_bind Within.trans hx hf

theorem confined_strike_call : Confined (onHost (Host.strike .call)) :=
  fun d => .of_host d fun _ _ hp => Host.upcoming_strike_of_ne hp d.host

theorem confined_database : Confined database := by
  intro d
  simp only [database, Attempt.ofExcept]
  cases d.host.catalog.database? d.session.database <;> exact .refl d

theorem confined_call (procedure : QualifiedName) (args : Args) :
    Confined (call procedure args) := by
  refine confined_strike_call.bind fun _ => ?_
  refine Confined.bind (fun d => .refl d) fun depth => ?_
  split
  · exact fun d => .refl d
  · refine confined_database.bind fun db => ?_
    split
    · exact fun d => .refl d
    · exact within_perform _

theorem confined_callInOrder (args : Args) (procedures : List QualifiedName) :
    Confined (callInOrder args procedures) := by
  induction procedures with
  | nil => exact confined_pure none
  | cons p rest ih =>
    refine (confined_call p args).bind fun o => ?_
    split
    · exact confined_pure _
    · exact ih

end Dialog

end Admission
