import Admission.Proofs.Traffic.Ownership

set_option autoImplicit false

/-!
# Whole parties

The moves are those of the programs.  Each attempt that a client makes in a round trip is
a run of moves, and so is each poll of a worker; others may go on between the attempts of
a client, and the round trip with all its pauses is a run of moves again.  So what holds at
every moment holds when a round trip is over.
-/

namespace Admission

/-- The stage of the client of a visit. -/
def Phase.stage (ticket : Ticket) : Phase → Client.Stage
  | .arriving => .claiming
  | .turnedAway => .over (.abort Client.claimTimeout)
  | .waiting _ => .waiting ticket
  | .answered _ verdict => .over verdict
  | .gone _ => .over (.abort Client.workerTimeout)

theorem Phase.stage_eq_over_iff {p : Phase} {ticket : Ticket} {verdict : Verdict} :
    p.stage ticket = .over verdict ↔ p.verdict? = some verdict := by
  cases p <;> simp [stage, verdict?]

/-- Scans, decisions and publications are the work of workers. -/
def Move.isWork : Move → Bool
  | .scan _ | .decide .. | .publish .. => true
  | _ => false

namespace Traffic

variable (t : SlotTable) (errand : Nat → Errand)

/-- How far the client of a visit is with its round trip. -/
def stage (σ : Traffic) (v : Nat) : Client.Stage :=
  (σ.phase v).stage ((errand v).ticket t)

/-- The deadline is over. -/
def Late (deadline : Option Nat) (σ : Traffic) : Prop :=
  deadline.any (· ≤ σ.desk.host.clock) = true

/-- The visit is over, or it has just claimed its slot. -/
def Closes (v : Nat) (σ σ' : Traffic) : Prop :=
  (∃ verdict, (σ'.phase v).verdict? = some verdict) ∨
    σ.phase v = .arriving ∧ ∃ turn, σ'.phase v = .waiting turn

/-- The traffic once a visit has come to a phase. -/
def cameTo (σ : Traffic) (v : Nat) (p : Phase) (desk : Desk) : Traffic :=
  { σ with desk, phase := Function.update σ.phase v p }

/-- An attempt of the client of a visit takes the traffic on, by moves; no other visit
gets on by it. -/
structure Advances (rule : Traffic → Move → Prop) (deadline : Option Nat) (v : Nat)
    (σ σ' : Traffic) : Prop where
  run : ((errand v).client t).advance (errand v).connection (errand v).status deadline
    (σ.stage t errand v) σ.desk = (.done (σ'.stage t errand v), σ'.desk)
  leads : Leads t errand rule σ σ'
  phase_of_ne : ∀ u : Nat, u ≠ v → σ'.phase u = σ.phase u
  processes_eq : σ'.processes = σ.processes

/-- A poll of a worker takes the traffic on, by the work of workers; no visit gets on
by it. -/
structure Polls (rule : Traffic → Move → Prop) (settings : ClientAuthSettings) (w : Worker)
    (σ σ' : Traffic) : Prop where
  run : (Shift.poll settings ⟨w, σ.desk⟩).2.desk = σ'.desk
  leads : Leads t errand (fun σ m => rule σ m ∧ m.isWork = true) σ σ'
  phase_eq : σ'.phase = σ.phase

/-- What a worker runs to decide in its next poll does not write into the slots. -/
def DecidesAside (settings : ClientAuthSettings) (w : Worker) (σ : Traffic) : Prop :=
  ∀ (slot : Nat) (r : Request) (s : Shift),
    Shift.takePending ⟨w, σ.desk⟩ = (.done (some (slot, r)), s) →
    Host.Rewrites t (s.desk.host.slot t) s.desk.host (Shift.decide settings r s).2.desk.host

/-- The programs of all parties are runs of moves by the rule. -/
structure Driven (rule : Traffic → Move → Prop) (σ : Traffic) : Prop where
  /-- A client whose process runs makes its next attempt; when the deadline is over this is
  the last one, unless it claims the slot. -/
  advances : ∀ (deadline : Option Nat) (v : Nat), σ.Alive errand v →
    ∃ σ' : Traffic, Advances t errand rule deadline v σ σ' ∧ (σ.Late deadline → Closes v σ σ')
  polls : ∀ (settings : ClientAuthSettings) (w : Worker), w.table = t →
    DecidesAside t settings w σ → ∃ σ' : Traffic, Polls t errand rule settings w σ σ'

/-- The round trip of a visit, from its next attempt on: the client makes attempts until one
of them ends it, and others make moves in the pauses. -/
inductive Trip (rule : Traffic → Move → Prop) (deadline : Option Nat) (v : Nat) :
    Traffic → Verdict → Traffic → Prop where
  | last {σ σ' : Traffic} {verdict : Verdict} :
    Advances t errand rule deadline v σ σ' → (σ'.phase v).verdict? = some verdict →
    Trip rule deadline v σ verdict σ'
  | pause {σ σ₁ σ₂ σ' : Traffic} {verdict : Verdict} :
    Advances t errand rule deadline v σ σ₁ → Leads t errand rule σ₁ σ₂ →
    σ₂.phase v = σ₁.phase v → σ₂.Alive errand v → Trip rule deadline v σ₂ verdict σ' →
    Trip rule deadline v σ verdict σ'

variable {t errand} {rule : Traffic → Move → Prop} {deadline : Option Nat} {v : Nat}
  {verdict : Verdict} {σ σ' : Traffic}

@[simp] theorem cameTo_phase_self (v : Nat) (p : Phase) (desk : Desk) :
    (σ.cameTo v p desk).phase v = p :=
  Function.update_self _ _ _

theorem cameTo_phase_of_ne {u : Nat} (h : u ≠ v) (p : Phase) (desk : Desk) :
    (σ.cameTo v p desk).phase u = σ.phase u :=
  Function.update_of_ne h _ _

theorem stage_eq {p : Phase} (h : σ.phase v = p) :
    σ.stage t errand v = p.stage ((errand v).ticket t) := by
  rw [stage, h]

/-- A run of moves keeps the record in agreement with the table. -/
theorem Leads.recorded (h : Leads t errand rule σ σ') (hr : σ.Recorded t errand) :
    σ'.Recorded t errand := by
  induction h with
  | refl => exact hr
  | tail _ hmakes ih =>
    obtain ⟨m, hm, -, rfl⟩ := hmakes
    exact ih.after hm

theorem Advances.alive (h : Advances t errand rule deadline v σ σ') {u : Nat}
    (halive : σ.Alive errand u) : σ'.Alive errand u := by
  unfold Alive at halive ⊢
  rwa [h.processes_eq]

/-- A round trip is a run of moves, at whose end the visit is over with the verdict. -/
theorem Trip.leads (h : Trip t errand rule deadline v σ verdict σ') :
    Leads t errand rule σ σ' ∧ (σ'.phase v).verdict? = some verdict := by
  induction h with
  | last hadvances hover => exact ⟨hadvances.leads, hover⟩
  | pause hadvances hothers _ _ _ ih =>
    have hpaused := hadvances.leads.trans hothers
    exact ⟨hpaused.trans ih.1, ih.2⟩

section Mono

variable {rule' : Traffic → Move → Prop}
  (hrule : ∀ (σ : Traffic) (m : Move), rule σ m → rule' σ m)

include hrule

theorem Advances.mono (h : Advances t errand rule deadline v σ σ') :
    Advances t errand rule' deadline v σ σ' :=
  { h with leads := h.leads.mono hrule }

/-- A round trip by a rule is one by every weaker rule. -/
theorem Trip.mono (h : Trip t errand rule deadline v σ verdict σ') :
    Trip t errand rule' deadline v σ verdict σ' := by
  induction h with
  | last hadvances hover => exact .last (hadvances.mono hrule) hover
  | pause hadvances hothers hphase halive _ ih =>
    exact .pause (hadvances.mono hrule) (hothers.mono hrule) hphase halive ih

/-- Programs that are run by a rule are run by every weaker rule. -/
theorem Driven.mono (h : σ.Driven t errand rule) : σ.Driven t errand rule' where
  advances deadline v halive := by
    obtain ⟨σ', hadvances, hlate⟩ := h.advances deadline v halive
    exact ⟨σ', hadvances.mono hrule, hlate⟩
  polls settings w hw hdecides := by
    obtain ⟨σ', hpolls⟩ := h.polls settings w hw hdecides
    refine ⟨σ', { hpolls with leads := hpolls.leads.mono ?_ }⟩
    intro σ m hwork
    exact ⟨hrule σ m hwork.1, hwork.2⟩

end Mono

/-! ## Clients -/

section Client

variable (hr : σ.Recorded t errand) (halive : σ.Alive errand v)

include hr halive

section Arriving

variable (hv : σ.phase v = .arriving)

include hv

omit hr in
theorem leads_claim : Leads t errand (Proper errand) σ (σ.after t errand (.claim v)) :=
  (Leads.refl σ).move _ hv ⟨halive, trivial, trivial⟩

/-- An attempt that claims the slot. -/
theorem advances_claimed (deadline : Option Nat) (h : σ.Claimable t ((errand v).slot t)) :
    ∃ desk : Desk,
      ((errand v).client t).claim (errand v).connection (errand v).status σ.desk =
        (.done (some ((errand v).ticket t)), desk) ∧
      Advances t errand (Proper errand) deadline v σ (σ.granted v ((errand v).slot t) desk) := by
  obtain ⟨d₁, hrun, hafter, hleft⟩ := after_claim_granted hr.maps v h
  refine ⟨d₁, hrun, ?_, hafter ▸ leads_claim halive hv,
    fun u hu => granted_phase_of_ne _ _ _ _ hu, hleft.processes_eq⟩
  rw [stage_eq hv, stage_eq (granted_phase_self _ _ _ _)]
  exact Client.advance_of_claimed hrun

/-- A claim in vain before the deadline. -/
theorem advances_refused (h : ¬ σ.Claimable t ((errand v).slot t)) (hearly : ¬ σ.Late deadline) :
    Advances t errand (Proper errand) deadline v σ (σ.after t errand (.claim v)) := by
  have hleads := leads_claim (t := t) halive hv
  obtain ⟨d₁, hrun, hafter, hleft⟩ := after_claim_refused hr.maps v h
  rw [hafter] at hleads ⊢
  refine ⟨?_, hleads, fun _ _ => rfl, hleft.processes_eq⟩
  rw [stage_eq hv, stage_eq (σ := { σ with desk := d₁ }) hv]
  exact Client.advance_of_refused hrun hearly

/-- A claim in vain at the deadline. -/
theorem advances_noSlot (h : ¬ σ.Claimable t ((errand v).slot t)) (hlate : σ.Late deadline) :
    ∃ d₁ d₂ : Desk,
      ((errand v).client t).claim (errand v).connection (errand v).status σ.desk =
        (.done none, d₁) ∧
      ((errand v).client t).reportNoSlot d₁ = (.done (.abort Client.claimTimeout), d₂) ∧
      Advances t errand (Proper errand) deadline v σ
        (σ.cameTo v .turnedAway d₂) := by
  obtain ⟨d₁, hrun, hafter, hleft⟩ := after_claim_refused hr.maps v h
  have hclaim := hafter ▸ leads_claim halive hv
  obtain ⟨d₂, hreport, hafter', hleft'⟩ :=
    after_turnAway errand (σ := { σ with desk := d₁ }) (hleft.maps hr.maps) v
  have hturned := hclaim.move (.turnAway v) hv ⟨(alive_iff hleft).mpr halive, trivial, trivial⟩
  rw [hafter'] at hturned
  refine ⟨d₁, d₂, hrun, hreport, ?_, hturned, fun u hu => cameTo_phase_of_ne hu _ _,
    hleft'.processes_eq.trans hleft.processes_eq⟩
  rw [stage_eq hv, stage_eq (cameTo_phase_self _ _ _)]
  exact Client.advance_of_noSlot hrun hlate hreport

end Arriving

section Waiting

variable {n : Nat} (hv : σ.phase v = .waiting n)

include hv

omit hr in
theorem leads_collect : Leads t errand (Proper errand) σ (σ.after t errand (.collect v)) :=
  (Leads.refl σ).move _ ⟨n, by rw [hv]; rfl⟩ ⟨⟨halive, n, hv⟩, trivial, trivial⟩

/-- An attempt that finds the verdict. -/
theorem advances_answered (deadline : Option Nat)
    (h : (σ.slot t ((errand v).slot t)).done = true) :
    ∃ desk : Desk,
      ((errand v).client t).collect ((errand v).ticket t) σ.desk =
        (.done (some (.ofRejection (σ.slot t ((errand v).slot t)).result?)), desk) ∧
      Advances t errand (Proper errand) deadline v σ
        (σ.cameTo v (.answered n (.ofRejection (σ.slot t ((errand v).slot t)).result?)) desk) := by
  obtain ⟨d₁, hrun, hafter, hleft⟩ := after_collect_done hr.maps v h
  have hcollect := hafter ▸ leads_collect halive hv
  rw [hv] at hcollect
  refine ⟨d₁, hrun, ?_, hcollect, fun u hu => cameTo_phase_of_ne hu _ _, hleft.processes_eq⟩
  rw [stage_eq hv, stage_eq (cameTo_phase_self _ _ _)]
  exact Client.advance_of_answered hrun

/-- A look in vain before the deadline. -/
theorem advances_pending (h : (σ.slot t ((errand v).slot t)).done = false)
    (hearly : ¬ σ.Late deadline) :
    Advances t errand (Proper errand) deadline v σ (σ.after t errand (.collect v)) := by
  have hleads := leads_collect (t := t) halive hv
  obtain ⟨d₁, hrun, hafter, hleft⟩ := after_collect_pending hr.maps v h
  rw [hafter] at hleads ⊢
  refine ⟨?_, hleads, fun _ _ => rfl, hleft.processes_eq⟩
  rw [stage_eq hv, stage_eq (σ := { σ with desk := d₁ }) hv]
  exact Client.advance_of_pending hrun hearly

/-- Giving up on a request is a run of moves. -/
theorem leads_reportNoAnswer :
    ∃ desk : Desk, ((errand v).client t).reportNoAnswer ((errand v).ticket t) σ.desk =
        (.done (.abort Client.workerTimeout), desk) ∧
      Leads t errand (Proper errand) σ
        (σ.cameTo v (.gone n) desk) ∧
      desk.host.processes = σ.processes := by
  obtain ⟨d₁, hcount, hleft₁⟩ := Desk.quiet_count t .timeouts σ.desk hr.maps
  obtain ⟨d₂, hsay, hleft₂⟩ := Desk.quiet_say t .warn
    s!"[CLIENT] Worker did not answer slot {((errand v).client t).slot} in time" d₁
      (hleft₁.maps hr.maps)
  have hleft := hleft₁.keep hleft₂
  have hreported : Leads t errand (Proper errand) σ (σ.after t errand (.elsewhere d₂)) :=
    (Leads.refl σ).move _ hleft ⟨trivial, trivial, trivial⟩
  rw [after_elsewhere] at hreported
  obtain ⟨d₃, habandon, hafter, hleft₃⟩ :=
    after_abandon errand (σ := { σ with desk := d₂ }) (hleft.maps hr.maps) v
  have hgone := hreported.move (.abandon v) ⟨n, by rw [hv]; rfl⟩
    ⟨⟨(alive_iff hleft).mpr halive, n, hv⟩, trivial, trivial⟩
  rw [hafter, hv] at hgone
  refine ⟨d₃, ?_, hgone, hleft₃.processes_eq.trans hleft.processes_eq⟩
  rw [Client.reportNoAnswer, Attempt.bind_of_done hcount, Attempt.bind_of_done hsay,
    Attempt.bind_of_done habandon]
  rfl

/-- A look in vain at the deadline. -/
theorem advances_noAnswer (h : (σ.slot t ((errand v).slot t)).done = false)
    (hlate : σ.Late deadline) :
    ∃ d₁ d₂ : Desk,
      ((errand v).client t).collect ((errand v).ticket t) σ.desk = (.done none, d₁) ∧
      ((errand v).client t).reportNoAnswer ((errand v).ticket t) d₁ =
        (.done (.abort Client.workerTimeout), d₂) ∧
      Advances t errand (Proper errand) deadline v σ
        (σ.cameTo v (.gone n) d₂) := by
  obtain ⟨d₁, hrun, hafter, hleft⟩ := after_collect_pending hr.maps v h
  have hcollect := hafter ▸ leads_collect halive hv
  have hlooked : ({ σ with desk := d₁ } : Traffic).Recorded t errand :=
    hafter ▸ hr.after (m := .collect v) ⟨n, by rw [hv]; rfl⟩
  obtain ⟨d₂, hreport, hgone, hprocesses⟩ :=
    leads_reportNoAnswer hlooked ((alive_iff hleft).mpr halive) hv
  refine ⟨d₁, d₂, hrun, hreport, ?_, Leads.trans hcollect hgone,
    fun u hu => cameTo_phase_of_ne hu _ _, hprocesses.trans hleft.processes_eq⟩
  rw [stage_eq hv, stage_eq (cameTo_phase_self _ _ _)]
  exact Client.advance_of_noAnswer hrun hlate hreport

end Waiting

omit hr halive in
/-- When a visit is over, its client is left alone. -/
theorem advances_over (deadline : Option Nat) (hv : (σ.phase v).verdict? = some verdict) :
    Advances t errand (Proper errand) deadline v σ σ := by
  refine ⟨?_, .refl σ, fun _ _ => rfl, rfl⟩
  rw [stage, Phase.stage_eq_over_iff.mpr hv]
  rfl

/-- The client of a visit makes its next attempt by moves, which brings the round trip to an
end when the deadline is over. -/
theorem Recorded.advances (deadline : Option Nat) :
    ∃ σ' : Traffic, Advances t errand (Proper errand) deadline v σ σ' ∧
      (σ.Late deadline → Closes v σ σ') := by
  have hover (verdict : Verdict) (hv : (σ.phase v).verdict? = some verdict) :
      ∃ σ' : Traffic, Advances t errand (Proper errand) deadline v σ σ' ∧
        (σ.Late deadline → Closes v σ σ') :=
    ⟨σ, advances_over deadline hv, fun _ => .inl ⟨verdict, hv⟩⟩
  cases hv : σ.phase v with
  | arriving =>
    by_cases hclaimable : σ.Claimable t ((errand v).slot t)
    · obtain ⟨d₁, -, hadvances⟩ := advances_claimed hr halive hv deadline hclaimable
      exact ⟨_, hadvances, fun _ => .inr ⟨hv, _, granted_phase_self _ _ _ _⟩⟩
    · by_cases hlate : σ.Late deadline
      · obtain ⟨d₁, d₂, -, -, hadvances⟩ := advances_noSlot hr halive hv hclaimable hlate
        exact ⟨_, hadvances, fun _ => .inl ⟨_, by rw [cameTo_phase_self]; rfl⟩⟩
      · exact ⟨_, advances_refused hr halive hv hclaimable hlate, fun h => absurd h hlate⟩
  | waiting n =>
    cases hdone : (σ.slot t ((errand v).slot t)).done with
    | true =>
      obtain ⟨d₁, -, hadvances⟩ := advances_answered hr halive hv deadline hdone
      exact ⟨_, hadvances, fun _ => .inl ⟨_, by rw [cameTo_phase_self]; rfl⟩⟩
    | false =>
      by_cases hlate : σ.Late deadline
      · obtain ⟨d₁, d₂, -, -, hadvances⟩ := advances_noAnswer hr halive hv hdone hlate
        exact ⟨_, hadvances, fun _ => .inl ⟨_, by rw [cameTo_phase_self]; rfl⟩⟩
      · exact ⟨_, advances_pending hr halive hv hdone hlate, fun h => absurd h hlate⟩
  | turnedAway => exact hover _ (by rw [hv]; rfl)
  | answered turn verdict => exact hover verdict (by rw [hv]; rfl)
  | gone turn => exact hover _ (by rw [hv]; rfl)

/-- A round trip with no time is one of two attempts at most, with no pause. -/
theorem Recorded.roundTrip (hv : σ.phase v = .arriving) :
    ∃ (verdict : Verdict) (σ' : Traffic),
      ((errand v).client t).roundTrip (errand v).connection (errand v).status σ.desk =
        (.done verdict, σ'.desk) ∧
      Trip t errand (Proper errand) (some 0) v σ verdict σ' := by
  have hlate (σ : Traffic) : σ.Late (some 0) := by simp [Late]
  by_cases hclaimable : σ.Claimable t ((errand v).slot t)
  case neg =>
    obtain ⟨d₁, d₂, hclaim, hreport, hadvances⟩ :=
      advances_noSlot hr halive hv hclaimable (hlate σ)
    refine ⟨_, _, ?_, .last hadvances (by rw [cameTo_phase_self]; rfl)⟩
    rw [Client.roundTrip, Attempt.bind_of_done hclaim]
    exact hreport
  case pos =>
    obtain ⟨d₁, hclaim, hclaims⟩ := advances_claimed hr halive hv (some 0) hclaimable
    have hwaiting := granted_phase_self σ v ((errand v).slot t) d₁
    generalize hσ₁ : σ.granted v ((errand v).slot t) d₁ = σ₁ at hclaims hwaiting
    have hd₁ : σ₁.desk = d₁ := by rw [← hσ₁]; rfl
    have hr₁ : σ₁.Recorded t errand := hclaims.leads.recorded hr
    have halive₁ : σ₁.Alive errand v := hclaims.alive halive
    have hpause {verdict : Verdict} {σ₂ : Traffic}
        (hlooks : Advances t errand (Proper errand) (some 0) v σ₁ σ₂)
        (hover : (σ₂.phase v).verdict? = some verdict) :
        Trip t errand (Proper errand) (some 0) v σ verdict σ₂ :=
      .pause hclaims (.refl σ₁) rfl halive₁ (.last hlooks hover)
    rw [Client.roundTrip, Attempt.bind_of_done hclaim, ← hd₁]
    cases hdone : (σ₁.slot t ((errand v).slot t)).done with
    | true =>
      obtain ⟨d₂, hcollect, hlooks⟩ :=
        advances_answered hr₁ halive₁ hwaiting (some 0) hdone
      refine ⟨_, _, ?_, hpause hlooks (by rw [cameTo_phase_self]; rfl)⟩
      exact Attempt.bind_of_done hcollect
    | false =>
      obtain ⟨d₂, d₃, hcollect, hreport, hlooks⟩ :=
        advances_noAnswer hr₁ halive₁ hwaiting hdone (hlate σ₁)
      refine ⟨_, _, ?_, hpause hlooks (by rw [cameTo_phase_self]; rfl)⟩
      exact (Attempt.bind_of_done hcollect).trans hreport

end Client

/-! ## Workers -/

/-- A worker that decides from a copy of the latest request, and publishes that, does it by
moves: it is in time, and publishes what it decided itself. -/
theorem leads_decide_publish (hr : σ.Recorded t errand) {settings : ClientAuthSettings}
    {w : Worker} (hw : w.table = t) {copy : Copy} (hcopy : copy ∈ σ.copies)
    (hturn : σ.turns copy.slot ≤ copy.turn)
    (hleft : Host.Rewrites t (σ.slot t) σ.desk.host
      (Shift.decide settings copy.request ⟨w, σ.desk⟩).2.desk.host) :
    ∃ σ' : Traffic,
      ((do let rejection ← Shift.decide settings copy.request
           Shift.publish copy.slot copy.request (rejection.map Text.singleLine)
           return true : Attempt Shift Bool) ⟨w, σ.desk⟩).2.desk = σ'.desk ∧
      Leads t errand (fun σ m => Proper errand σ m ∧ m.isWork = true) σ σ' ∧
      σ'.phase = σ.phase := by
  have hdecide : Leads t errand (fun σ m => Proper errand σ m ∧ m.isWork = true) σ
      (σ.after t errand (.decide settings w copy)) :=
    (Leads.refl σ).move _ ⟨hw, hcopy, hleft⟩ ⟨⟨trivial, trivial, trivial⟩, rfl⟩
  have hr₁ := hdecide.recorded hr
  have hstays : (Shift.decide settings copy.request ⟨w, σ.desk⟩).2.worker.table = t :=
    ((Shift.stays_decide settings copy.request).table_eq _).trans hw
  rcases hrun : Shift.decide settings copy.request ⟨w, σ.desk⟩ with ⟨ending, s⟩
  rw [hrun] at hstays
  simp only [after, hrun] at hdecide hr₁
  cases ending with
  | failed e => exact ⟨_, by rw [Attempt.bind_apply, hrun], hdecide, rfl⟩
  | unwound p => exact ⟨_, by rw [Attempt.bind_apply, hrun], hdecide, rfl⟩
  | done reason =>
    have hpublish := hdecide.move
      (.publish s.worker copy (reason.map Text.singleLine)) ⟨hstays, hcopy⟩
      ⟨⟨trivial, timely_of_le hturn, List.mem_cons_self⟩, rfl⟩
    obtain ⟨s', hput, -, -⟩ := Shift.publish_spec (s := s) (hstays ▸ hr₁.maps)
      (hstays ▸ (hr.copied copy hcopy).1) copy.request (reason.map Text.singleLine)
    refine ⟨_, ?_, hpublish, rfl⟩
    rw [Attempt.bind_of_done hrun, Attempt.bind_of_done hput]
    exact congrArg (·.2.desk) hput.symm

/-- A poll is a scan, and the decision and the publication that follow it. -/
theorem Recorded.polls (hr : σ.Recorded t errand) {settings : ClientAuthSettings} {w : Worker}
    (hw : w.table = t) (hdecides : DecidesAside t settings w σ) :
    ∃ σ' : Traffic, Polls t errand (Proper errand) settings w σ σ' := by
  have hscan : Leads t errand (fun σ m => Proper errand σ m ∧ m.isWork = true) σ
      (σ.after t errand (.scan w)) :=
    (Leads.refl σ).move _ hw ⟨⟨trivial, trivial, trivial⟩, rfl⟩
  subst hw
  by_cases hslots : w.slots = []
  case pos =>
    have hrun := Shift.takePending_without_slots (s := ⟨w, σ.desk⟩) hslots
    exact ⟨σ, by rw [Shift.poll, Attempt.bind_apply, hrun], .refl σ, rfl⟩
  case neg =>
    obtain ⟨s₁, hrun, hworker, hleft⟩ :=
      Shift.takePending_spec (s := ⟨w, σ.desk⟩) hr.maps hslots
    cases hfound : Shift.found w (σ.desk.host.slot w.table) with
    | none =>
      rw [hfound] at hrun
      have hafter : σ.after w.table errand (.scan w) = { σ with desk := s₁.desk } := by
        simp only [Traffic.after, hrun]
      rw [hafter] at hscan
      exact ⟨_, by rw [Shift.poll, Attempt.bind_of_done hrun]; rfl, hscan, rfl⟩
    | some pending =>
      obtain ⟨slot, r⟩ := pending
      rw [hfound] at hrun
      have hafter : σ.after w.table errand (.scan w) =
          { σ with desk := s₁.desk, copies := ⟨slot, σ.turns slot, r⟩ :: σ.copies } := by
        simp only [Traffic.after, hrun]
      have hr₁ : (σ.after w.table errand (.scan w)).Recorded w.table errand := hr.after rfl
      rw [hafter] at hscan hr₁
      obtain ⟨σ', hdesk, hwork, hphase⟩ := leads_decide_publish hr₁ (w := s₁.worker)
        (by rw [hworker]) List.mem_cons_self (Nat.le_refl _)
        (hdecides slot r s₁ hrun)
      refine ⟨σ', ?_, hscan.trans hwork, hphase⟩
      rw [Shift.poll, Attempt.bind_of_done hrun]
      exact hdesk

/-- Whatever the table holds, the programs are run by orderly clients, and by workers that
publish in time what they decided. -/
theorem Recorded.driven (hr : σ.Recorded t errand) : σ.Driven t errand (Proper errand) where
  advances deadline _ halive := hr.advances halive deadline
  polls _ _ hw hdecides := hr.polls hw hdecides

end Traffic

end Admission
