import Admission.Proofs.Decision.Decide
import Admission.Proofs.Procedure.Release

set_option autoImplicit false

/-!
# Where panics come from

What a worker does outside of procedures panics only where a fault makes it: such an
attempt is frank.  That carries over from the parts of an attempt to the whole, and so
does that faults are only ever used up.
-/

namespace Admission

namespace Attempt

open Exposed

variable {σ τ α β : Type} [Exposed σ] [Exposed τ] {x : Attempt σ α} {f : α → Attempt σ β}

/-- The attempt plans no faults of any sort. -/
def Spends (x : Attempt σ α) : Prop :=
  ∀ (sort : FaultSort) (s : σ), threatsBy sort (x s).2 ≤ threatsBy sort s

/-- The attempt plans no faults, and it panics exactly if a panic strikes it outside of
procedures. -/
structure Frank (x : Attempt σ α) : Prop where
  spends : x.Spends
  unwound_iff : ∀ s : σ, (∃ p : PanicPayload, (x s).1 = .unwound p) ↔ x.StruckBy .crash s

/-! ## From parts to the whole -/

theorem spends_of_evades (h : ∀ sort : FaultSort, x.Evades sort) : x.Spends :=
  fun sort s => Nat.le_of_eq (h sort s)

/-- What one sort loses, no other sort gains: who is struck by a sort is struck. -/
theorem Spends.struck {sort : FaultSort} (hx : x.Spends) {s : σ} (h : x.StruckBy sort s) :
    x.Struck s := by
  have hother := hx sort.others s
  unfold StruckBy threatsBy at h
  unfold threatsBy at hother
  unfold Struck threats
  rw [FaultPlan.threats_eq_add sort (faults (x s).2), FaultPlan.threats_eq_add sort (faults s)]
  exact Nat.add_lt_add_of_lt_of_le h hother

theorem Spends.bind (hx : x.Spends) (hf : ∀ a : α, (f a).Spends) : (x >>= f).Spends :=
  fun sort => rel_bind (R := fun s s' => threatsBy sort s' ≤ threatsBy sort s)
    (fun h h' => Nat.le_trans h' h) (hx sort) fun a => hf a sort

/-- What evades all faults and never panics is frank. -/
theorem frank_of_evades (h : ∀ sort : FaultSort, x.Evades sort)
    (hcalm : ∀ (s : σ) (p : PanicPayload), (x s).1 ≠ .unwound p) : x.Frank := by
  refine ⟨spends_of_evades h, fun s => ⟨fun hunwound => ?_, fun hstruck => ?_⟩⟩
  · obtain ⟨p, hp⟩ := hunwound
    exact absurd hp (hcalm s p)
  · exact absurd hstruck ((h .crash).not_struckBy s)

theorem Aloof.frank (hx : x.Aloof)
    (hcalm : ∀ (s : σ) (p : PanicPayload), (x s).1 ≠ .unwound p) : x.Frank :=
  frank_of_evades hx.evades hcalm

/-- A step that may refuse, and otherwise leaves the plan alone. -/
theorem frank_ofExcept {y : σ → Except BackendError β} {f : σ → β → α × σ}
    (hf : ∀ (s : σ) (b : β), faults (f s b).2 = faults s) :
    (ofExcept fun s => (y s).map (f s)).Frank := by
  refine frank_of_evades (fun _ => evades_ofExcept hf) fun s p => ?_
  rw [ofExcept]
  cases y s <;> rintro ⟨⟩

theorem frank_pure (a : α) : (pure a : Attempt σ α).Frank :=
  (aloof_pure a).frank (by rintro _ _ ⟨⟩)

/-- A frank attempt that does not panic was not struck by a panic. -/
theorem Frank.threatsBy_eq (hx : x.Frank) {s : σ} (hcalm : ∀ p : PanicPayload,
    (x s).1 ≠ .unwound p) : threatsBy .crash (x s).2 = threatsBy .crash s := by
  have hspared : ¬ x.StruckBy .crash s := fun hstruck => by
    obtain ⟨p, hp⟩ := (hx.unwound_iff s).mpr hstruck
    exact hcalm p hp
  exact Nat.le_antisymm (hx.spends .crash s) (Nat.le_of_not_lt hspared)

theorem Frank.bind (hx : x.Frank) (hf : ∀ a : α, (f a).Frank) : (x >>= f).Frank := by
  refine ⟨hx.spends.bind fun a => (hf a).spends, fun s => ?_⟩
  have hiff := hx.unwound_iff s
  have hcalm := hx.threatsBy_eq (s := s)
  rw [StruckBy] at hiff ⊢
  rw [bind_apply]
  generalize x s = result at hiff hcalm
  obtain ⟨ending, s'⟩ := result
  cases ending with
  | unwound p => simpa using hiff
  | failed e => simpa using hiff
  | done a =>
    -- The first part was not struck, so the second one is where the count may fall.
    have hnext := (hf a).unwound_iff s'
    rw [StruckBy, hcalm (by rintro _ ⟨⟩)] at hnext
    exact hnext

theorem Frank.settle (hx : x.Frank) : x.settle.Frank := by
  refine ⟨fun sort s => ?_, fun s => ?_⟩
  · rw [settle_snd]
    exact hx.spends sort s
  · have hiff := hx.unwound_iff s
    rw [StruckBy] at hiff ⊢
    rw [settle_snd, ← hiff]
    unfold Attempt.settle
    generalize x s = result
    obtain ⟨ending, s'⟩ := result
    cases ending <;> simp

/-- Looking at the ending of an attempt keeps a panic in. -/
theorem frank_observe (hx : x.Spends) (hcrash : x.Evades .crash) : x.observe.Frank := by
  refine ⟨hx, fun s => iff_of_false ?_ (hcrash.not_struckBy s)⟩
  rintro ⟨p, ⟨⟩⟩

theorem Frank.bracket {opening closing undoing : Attempt σ Unit} (hopening : opening.Frank)
    (hclosing : closing.Frank) (hundoing : ∀ sort : FaultSort, undoing.Evades sort)
    (hdone : ∀ s : σ, (undoing s).1 = .done ()) (hx : x.Frank) :
    (Attempt.bracket opening closing undoing x).Frank := by
  rw [bracket_eq]
  refine hopening.bind fun _ => ⟨?_, fun s => ?_⟩
  · have hobserve : x.observe.Spends := hx.spends
    refine hobserve.bind fun ending => ?_
    cases ending with
    | done a => exact hclosing.spends.bind fun _ => (frank_pure a).spends
    | failed e => exact (spends_of_evades hundoing).bind fun _ _ _ => Nat.le_refl _
    | unwound p => exact (spends_of_evades hundoing).bind fun _ _ _ => Nat.le_refl _
  · have hiff := hx.unwound_iff s
    have hcalm := hx.threatsBy_eq (s := s)
    rw [StruckBy] at hiff ⊢
    rw [bind_apply, observe]
    generalize x s = result at hiff hcalm
    obtain ⟨ending, s'⟩ := result
    have hundo : undoing s' = (.done (), (undoing s').2) := Prod.ext (hdone s') rfl
    cases ending with
    | done a =>
      have hclose := (hclosing.bind fun _ => frank_pure a).unwound_iff s'
      rw [StruckBy, hcalm (by rintro _ ⟨⟩)] at hclose
      exact hclose
    | failed e =>
      have hleft : wrapUp closing undoing (.failed e) s' =
          ((.failed e : Ending α), (undoing s').2) := bind_of_done hundo
      dsimp only
      rw [hleft, hundoing .crash s']
      exact hiff
    | unwound p =>
      have hleft : wrapUp closing undoing (.unwound p) s' =
          ((.unwound p : Ending α), (undoing s').2) := bind_of_done hundo
      dsimp only
      rw [hleft, hundoing .crash s']
      exact hiff

theorem Frank.onPart {get : τ → σ} {set : τ → σ → τ} (hp : HoldsPlan get set) (hx : x.Frank) :
    (Attempt.onPart get set x).Frank := by
  refine ⟨fun sort t => ?_, fun t => ?_⟩
  · have hspends := hx.spends sort (get t)
    rw [threatsBy, threatsBy, hp.faults_get] at hspends
    rw [threatsBy, threatsBy, onPart_apply, hp.faults_set]
    exact hspends
  · rw [struckBy_onPart_iff hp]
    exact hx.unwound_iff (get t)

end Attempt

/-! ## On the host -/

namespace Host

open Attempt

theorem spends_strike (point : FaultPoint) : (strike point).Spends :=
  fun sort h => threatsBy_strike_le sort point h

/-- A call outside of procedures panics exactly if a planned panic strikes it. -/
theorem frank_strike {point : FaultPoint} (hpoint : point.isProcedural = false) :
    (strike point).Frank := by
  refine ⟨spends_strike point, fun h => ?_⟩
  rw [struckBy_strike_iff]
  cases hnext : (h.faults.next point).1 with
  | none =>
    rw [strike_of_none hnext]
    simp
  | some fault =>
    rw [strike_of_some hnext]
    cases fault with
    | error message => simp [Fault.ending, FaultSort.crash]
    | panic message => simp [Fault.ending, FaultSort.crash, hpoint]

theorem spends_databaseExists (name : String) : (databaseExists name).Spends :=
  (spends_strike _).bind fun _ _ _ => Nat.le_refl _

theorem frank_connect (database : String) : (connect database).Frank :=
  (frank_strike rfl).bind fun _ => frank_ofExcept fun _ _ => rfl

end Host

/-! ## In the session -/

namespace Dialog

open Attempt

theorem spends_perform (p : Program) : (perform p).Spends := by
  -- Of all steps only the question for a database passes a fault point.
  have hstill {α : Type} {x : Attempt Dialog α} (h : ∀ d : Dialog,
      (x d).2.host.faults = d.host.faults) : x.Spends :=
    spends_of_evades fun sort => evades_of_host h
  induction p with
  | finish ending => exact hstill fun _ => rfl
  | get key next ih =>
    rw [perform_get]
    exact (hstill fun _ => rfl).bind ih
  | put key value next ih =>
    rw [perform_put]
    exact (hstill fun _ => rfl).bind fun _ => ih ()
  | delete key next ih =>
    rw [perform_delete]
    exact (hstill fun _ => rfl).bind fun _ => ih ()
  | trace line next ih =>
    rw [perform_trace]
    exact (hstill fun _ => rfl).bind fun _ => ih ()
  | order o next ih =>
    rw [perform_order]
    exact (hstill (aloof_asking (Host.aloof_order o)).faults_eq).bind ih
  | define database schema name body next _ ih =>
    rw [perform_define]
    exact (hstill (aloof_asking (Host.aloof_define database schema name body)).faults_eq).bind ih
  | databaseExists database next ih =>
    rw [perform_databaseExists]
    refine Spends.bind (fun sort d => ?_) ih
    exact Host.spends_databaseExists database sort d.host
  | changeSlot table slot change next ih =>
    rw [perform_changeSlot]
    exact (hstill (aloof_changing table slot change).faults_eq).bind fun _ => ih ()

theorem spends_call (procedure : QualifiedName) (args : Args) : (call procedure args).Spends := by
  have hstrike : (onHost (Host.strike .call)).Spends := fun sort d =>
    Host.spends_strike .call sort d.host
  have hstill {α : Type} (e : Ending α) : (conclude e : Attempt Dialog α).Spends :=
    fun _ _ => Nat.le_refl _
  refine hstrike.bind fun _ => Spends.bind (fun _ _ => Nat.le_refl _) fun depth => ?_
  split
  · exact hstill _
  · refine (spends_of_evades fun sort => evades_database).bind fun db => ?_
    split
    · exact hstill _
    · exact spends_perform _

theorem spends_callInOrder (args : Args) (procedures : List QualifiedName) :
    (callInOrder args procedures).Spends := by
  induction procedures with
  | nil => exact (frank_pure none).spends
  | cons p rest ih =>
    refine (spends_call p args).bind fun o => ?_
    split
    · exact (frank_pure _).spends
    · exact ih

theorem frank_strike {point : FaultPoint} (hpoint : point.isProcedural = false) :
    (onHost (Host.strike point)).Frank :=
  (Host.frank_strike hpoint).onPart holdsPlan_host

/-- A step of the session behind a call outside of procedures. -/
theorem frank_step {point : FaultPoint} (hpoint : point.isProcedural = false)
    (f : Session → Except BackendError Session) :
    (onHost (Host.strike point) >>= fun _ => step f).Frank :=
  (frank_strike hpoint).bind fun _ => frank_ofExcept fun _ _ => rfl

theorem frank_database : database.Frank :=
  frank_ofExcept fun _ _ => rfl

theorem frank_commit : commit.Frank := by
  rw [commit_eq]
  refine (frank_strike rfl).bind fun _ => frank_of_evades (fun _ => evades_close) fun d p => ?_
  unfold close
  split
  · rintro ⟨⟩
  · dsimp only
    split <;> rintro ⟨⟩

theorem frank_registered (feature : Feature) : (registered feature).Frank := by
  refine Frank.bind ?_ fun entries => frank_ofExcept fun _ _ => rfl
  exact (frank_strike rfl).bind fun _ => frank_database.bind fun _ => frank_pure _

theorem frank_evaluate (feature : Feature) (mode : Mode) : (evaluate feature mode).Frank := by
  unfold evaluate
  split
  · exact frank_pure _
  · refine Frank.bind ?_ fun installed => ?_
    · exact (frank_strike rfl).bind fun _ => frank_database.bind fun _ => frank_pure _
    · split
      · exact frank_pure _
      · refine (frank_registered feature).bind fun procedures => ?_
        split <;> exact frank_pure _

/-- A panic of a procedure does not get out of a run in isolation, and all others do. -/
theorem frank_runIsolated (procedures : List QualifiedName) (args : Args) :
    (runIsolated procedures args).Frank := by
  have hcalls : (callInOrder args procedures).Evades .crash := by
    refine evades_callInOrder (fun point fault h => ?_) args procedures
    cases fault with
    | error message => cases h
    | panic message => exact (Bool.not_eq_true' _).mp h
  rw [runIsolated_eq]
  refine (frank_step rfl _).bind fun _ =>
    (frank_observe (spends_callInOrder args procedures) hcalls).bind fun ending => ?_
  have hrollback (e : BackendError) :
      (rollbackSub >>= fun _ => pure (.raised e) : Attempt Dialog Outcome).Frank :=
    frank_of_evades (fun _ _ => rfl) (by rintro _ _ ⟨⟩)
  cases ending with
  | done rejection => exact (frank_step rfl _).bind fun _ => frank_pure _
  | failed e => exact hrollback e
  | unwound p => exact hrollback (.ofPanic p)

end Dialog

/-! ## By a worker -/

namespace Duty

open Attempt

theorem frank_follow (r : Request) (check : CatalogCheck) : (follow r check).Frank := by
  have hcounted (event : Counter) (answer : Option String) :
      (count event >>= fun _ => pure answer).Frank :=
    frank_of_evades (fun _ _ => rfl) (by rintro _ _ ⟨⟩)
  cases check with
  | accept reason => exact hcounted _ _
  | reject failure => exact hcounted _ _
  | run procedures =>
    refine ((Dialog.frank_runIsolated _ _).onPart holdsPlan_dialog).bind fun outcome => ?_
    cases outcome <;> exact frank_of_evades (fun _ _ => rfl) (by rintro _ _ ⟨⟩)

theorem frank_execute (mode : Mode) (r : Request) : (execute mode r).Frank := by
  rw [execute_eq]
  refine Frank.bracket ?_ ?_ (fun _ _ => rfl) (fun _ => rfl) ?_
  · exact (Dialog.frank_step rfl _).onPart holdsPlan_dialog
  · exact Dialog.frank_commit.onPart holdsPlan_dialog
  · exact ((Dialog.frank_evaluate .clientauth mode).onPart holdsPlan_dialog).bind (frank_follow r)

end Duty

namespace Shift

open Attempt

theorem frank_openSession (database : String) : (openSession database).Frank := by
  refine Frank.bind (frank_of_evades (fun _ _ => rfl) (by rintro _ _ ⟨⟩)) fun w => ?_
  split
  · exact frank_of_evades (fun _ _ => rfl) (by rintro _ _ ⟨⟩)
  · have hconnect := ((Host.frank_connect database).onPart Desk.holdsPlan_host).onPart
      holdsPlan_desk
    refine hconnect.settle.bind fun opened => ?_
    split <;> exact frank_of_evades (fun _ _ => rfl) (by rintro _ _ ⟨⟩)

theorem frank_useSession (session : Session) (mode : Mode) (r : Request) :
    (useSession session mode r).Frank := by
  have hduty := Duty.frank_execute mode r
  refine ⟨fun sort s => ?_, fun s => ?_⟩
  · rw [useSession_eq]
    exact hduty.spends sort ⟨⟨session, s.desk.host⟩, s.desk.metrics⟩
  · rw [StruckBy, useSession_eq]
    exact hduty.unwound_iff ⟨⟨session, s.desk.host⟩, s.desk.metrics⟩

/-- A worker's decision panics exactly if a panic strikes it outside of procedures. -/
theorem frank_decide (settings : ClientAuthSettings) (r : Request) :
    (decide settings r).Frank := by
  have hpassed : (do atDesk (Desk.count .workerBypassed); return none :
      Attempt Shift (Option String)).Frank :=
    frank_of_evades (fun _ _ => rfl) (by rintro _ _ ⟨⟩)
  cases hcheck : precheck settings r.connection with
  | skip reason => rw [decide, hcheck]; exact hpassed
  | disabled => rw [decide, hcheck]; exact hpassed
  | queue =>
    rw [decide_of_queue hcheck]
    refine (frank_openSession _).bind fun opened => ?_
    cases opened with
    | error e => exact frank_pure _
    | ok session =>
      refine (frank_useSession session settings.mode r).settle.bind fun answer => ?_
      cases answer <;> exact frank_of_evades (fun _ _ => rfl) (by rintro _ _ ⟨⟩)

end Shift

end Admission
