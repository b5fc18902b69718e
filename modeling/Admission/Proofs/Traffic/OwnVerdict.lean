import Admission.Proofs.Decision.Unplanned
import Admission.Proofs.Traffic.Parties

set_option autoImplicit false

/-!
# Everybody gets their own verdict

The number that a copy carries wraps at 32 bits, so it tells a claim from the next
2^32 - 1 claims of its slot.  A worker that is not later than that answers only the
request it copied; with orderly clients the answer is then read by nobody but the
client that put the request in.  What was answered is what the worker that published it
had decided itself, and a poll does just that.
-/

namespace Admission.Traffic

variable {t : SlotTable} {errand : Nat → Errand} {σ : Traffic}

/-- Numbers that are less than 2^32 apart are told apart by their last 32 bits. -/
theorem eq_of_number_eq {a b : Nat} (hle : a ≤ b) (hlt : b < a + UInt32.size)
    (h : UInt32.ofNat a = UInt32.ofNat b) : a = b := by
  have hmod : a % UInt32.size = b % UInt32.size := congrArg UInt32.toNat h
  simp only [UInt32.size] at hlt hmod
  omega

/-- An answer is recorded by its publication, in the turn that its slot is in. -/
theorem mem_answers_after {m : Move} {a : Answer} (h : a ∈ (σ.after t errand m).answers) :
    a ∈ σ.answers ∨
      m = .publish a.worker a.copy a.rejection ∧ a.turn = σ.turns a.copy.slot := by
  cases m with
  | claim v =>
    simp only [after] at h
    split at h <;> exact .inl h
  | collect v =>
    simp only [after] at h
    split at h <;> exact .inl h
  | scan w =>
    simp only [after] at h
    split at h <;> exact .inl h
  | decide settings w copy =>
    simp only [after] at h
    split at h <;> exact .inl h
  | publish w copy rejection =>
    simp only [after] at h
    split at h
    · rcases List.mem_cons.mp h with rfl | hold
      · exact .inr ⟨rfl, rfl⟩
      · exact .inl hold
    · exact .inl h
  | abandon v => exact .inl h
  | turnAway v => exact .inl h
  | die pid => exact .inl h
  | elsewhere desk => exact .inl h

/-- Only a worker that decides changes what is recorded as decided. -/
theorem decisions_after (σ : Traffic) (t : SlotTable) (errand : Nat → Errand) (m : Move) :
    (σ.after t errand m).decisions = σ.decisions ∨
      ∃ (settings : ClientAuthSettings) (w : Worker) (copy : Copy),
        m = .decide settings w copy := by
  cases m with
  | claim v =>
    simp only [after]
    split <;> exact .inl rfl
  | collect v =>
    simp only [after]
    split <;> exact .inl rfl
  | scan w =>
    simp only [after]
    split <;> exact .inl rfl
  | decide settings w copy => exact .inr ⟨settings, w, copy, rfl⟩
  | publish w copy rejection => exact .inl rfl
  | abandon v => exact .inl rfl
  | turnAway v => exact .inl rfl
  | die pid => exact .inl rfl
  | elsewhere desk => exact .inl rfl

/-- A decision is there from before, or was made now from a copy that was there. -/
theorem mem_decisions_after {m : Move} (hm : σ.Permits t m) {δ : Decision}
    (h : δ ∈ (σ.after t errand m).decisions) :
    δ ∈ σ.decisions ∨ δ.copy ∈ σ.copies ∧ δ.MadeAt t σ.desk := by
  rcases decisions_after σ t errand m with heq | ⟨settings, w, copy, rfl⟩
  · exact .inl (heq ▸ h)
  · obtain ⟨hw, hcopy, -⟩ := hm
    obtain ⟨decisions, hafter, heq | ⟨δ', rfl, hmade, heq⟩⟩ := after_decide errand hw settings copy
    · rw [hafter, heq] at h
      exact .inl h
    · rw [hafter, heq] at h
      rcases List.mem_cons.mp h with rfl | hold
      · exact .inr ⟨hcopy, hmade⟩
      · exact .inl hold

theorem mem_decisions_after_of_mem {m : Move} (hm : σ.Permits t m) {δ : Decision}
    (h : δ ∈ σ.decisions) : δ ∈ (σ.after t errand m).decisions := by
  rcases decisions_after σ t errand m with heq | ⟨settings, w, copy, rfl⟩
  · rwa [heq]
  · obtain ⟨decisions, hafter, heq | ⟨δ', -, -, heq⟩⟩ := after_decide errand hm.1 settings copy
    · rw [hafter, heq]
      exact h
    · rw [hafter, heq]
      exact List.mem_cons_of_mem _ h

variable {rule : Traffic → Move → Prop}

/-- A decision was made from a copy at an earlier moment, at the desk as it was then. -/
theorem Reaches.decided (h : Reaches t errand rule σ) :
    ∀ δ ∈ σ.decisions, ∃ σ₀ : Traffic, Reaches t errand rule σ₀ ∧ Leads t errand rule σ₀ σ ∧
      δ.copy ∈ σ₀.copies ∧ δ.MadeAt t σ₀.desk := by
  induction h with
  | start _ => nofun
  | @move σ m hreaches hm hkeeps ih =>
    intro δ hδ
    rcases mem_decisions_after hm hδ with hold | ⟨hcopy, hmade⟩
    · obtain ⟨σ₀, hσ₀, hleads, hcopy, hmade⟩ := ih δ hold
      exact ⟨σ₀, hσ₀, hleads.move m hm hkeeps, hcopy, hmade⟩
    · exact ⟨σ, hreaches, (Leads.refl σ).move m hm hkeeps, hcopy, hmade⟩

/-- An answer was decided by the worker that published it, from a copy of the very turn it
was taken in. -/
theorem Reaches.faithful (h : Reaches t errand (Proper errand) σ) :
    ∀ a ∈ σ.answers, a.copy.turn = a.turn ∧ a.toDecision ∈ σ.decisions := by
  induction h with
  | start _ => nofun
  | @move σ m hreaches hm hproper ih =>
    intro a ha
    obtain ⟨-, hle, -, hnumber⟩ := (hreaches.recorded.after hm).answered a ha
    rcases mem_answers_after ha with hold | ⟨rfl, hturn⟩
    · exact ⟨(ih a hold).1, mem_decisions_after_of_mem hm (ih a hold).2⟩
    · obtain ⟨-, htimely, hdecided⟩ := hproper
      refine ⟨eq_of_number_eq hle ?_ hnumber, mem_decisions_after_of_mem hm hdecided⟩
      rw [hturn]
      exact htimely

namespace Reaches

variable (h : Reaches t errand (Proper errand) σ)

include h

/-- An answer was decided from the request of its turn, which is of one visit alone. -/
theorem answer_of_claimed {a : Answer} (ha : a ∈ σ.answers) :
    a.copy.turn = a.turn ∧
      ∃ v : Nat, σ.Claimed t errand v a.copy.slot a.turn ∧
        a.copy.request = (errand v).request a.turn ∧
        ∀ w : Nat, σ.Claimed t errand w a.copy.slot a.turn → w = v := by
  have hr := h.recorded
  have hturn := (h.faithful a ha).1
  obtain ⟨-, v, hv, hrequest⟩ := hr.copied a.copy (hr.answered a ha).1
  rw [hturn] at hv hrequest
  exact ⟨hturn, v, hv, hrequest, fun w hw => hr.unique w v _ _ hw hv⟩

/-- The slot of a holder, once it is done, holds an answer to the request of the holder. -/
theorem answer_of_holds {v : Nat} (hv : σ.Holds t errand v ((errand v).slot t))
    (hdone : (σ.slot t ((errand v).slot t)).done = true) :
    ∃ a ∈ σ.answers, a.copy.slot = (errand v).slot t ∧
      a.turn = σ.turns ((errand v).slot t) ∧ a.copy.request = (errand v).request a.turn ∧
      (σ.slot t ((errand v).slot t)).result? = Slot.kept a.rejection := by
  have hr := h.recorded
  have hwaiting := (hv.spec hr h.orderly.owned).1
  have hclaimed : σ.Claimed t errand v ((errand v).slot t) (σ.turns ((errand v).slot t)) :=
    ⟨rfl, by rw [hwaiting]; rfl⟩
  obtain ⟨a, ha, hslot, hturn, hresult⟩ :=
    (hr.agrees _ ((errand v).slot_lt hr.maps.valid)).replied
      (hr.turn_le v _ _ hclaimed).1 hdone
  obtain ⟨-, u, -, hrequest, honly⟩ := h.answer_of_claimed ha
  obtain rfl : v = u := honly v (by rw [hslot, hturn]; exact hclaimed)
  exact ⟨a, ha, hslot, hturn, hrequest, hresult⟩

end Reaches

/-- Whenever a client that waits finds a verdict, the worker that published it had decided
it from a copy of the very request of the client, at an earlier moment and at the desk as it
was then, and it was cut to its capacity.  Every answer was decided from the request of its
turn, which is of one visit alone, and no turn of a slot was answered twice.  The programs of
all parties go on by moves of this kind. -/
theorem own_verdict (h : Reaches t errand (Proper errand) σ) :
    (∀ (v turn : Nat) (verdict : Verdict) (desk : Desk),
      σ.phase v = .waiting turn → σ.Alive errand v →
      ((errand v).client t).collect ((errand v).ticket t) σ.desk =
        (.done (some verdict), desk) →
      ∃ a ∈ σ.answers, a.copy ∈ σ.copies ∧ a.copy.slot = (errand v).slot t ∧
        a.copy.turn = turn ∧ a.turn = turn ∧ a.copy.request = (errand v).request turn ∧
        (∃ σ₀ : Traffic, Reaches t errand (Proper errand) σ₀ ∧
          Leads t errand (Proper errand) σ₀ σ ∧ a.copy ∈ σ₀.copies ∧
          a.toDecision.MadeAt t σ₀.desk) ∧
        verdict = .ofRejection (Slot.kept a.rejection)) ∧
    (∀ a ∈ σ.answers, a.copy.turn = a.turn ∧ a.toDecision ∈ σ.decisions ∧
      ∃ v : Nat, σ.Claimed t errand v a.copy.slot a.turn ∧
        a.copy.request = (errand v).request a.turn ∧
        ∀ w : Nat, σ.Claimed t errand w a.copy.slot a.turn → w = v) ∧
    (σ.answers.map fun a => (a.copy.slot, a.turn)).Nodup ∧
    σ.Driven t errand (Proper errand) := by
  have hr := h.recorded
  refine ⟨?verdict, ?answers, hr.once, hr.driven⟩
  case answers =>
    intro a ha
    obtain ⟨hturn, hclaimed⟩ := h.answer_of_claimed ha
    exact ⟨hturn, (h.faithful a ha).2, hclaimed⟩
  case verdict =>
    intro v turn verdict desk hwaiting halive hrun
    have hholds : σ.Holds t errand v ((errand v).slot t) := ⟨rfl, ⟨turn, hwaiting⟩, halive⟩
    have hlatest := (hholds.spec hr h.orderly.owned).1
    obtain rfl : turn = σ.turns ((errand v).slot t) :=
      Phase.waiting.inj (hwaiting.symm.trans hlatest)
    cases hdone : (σ.slot t ((errand v).slot t)).done with
    | false =>
      obtain ⟨desk', hrun', -⟩ := after_collect_pending hr.maps v hdone
      rw [hrun'] at hrun
      cases hrun
    | true =>
      obtain ⟨desk', hrun', -⟩ := after_collect_done hr.maps v hdone
      rw [hrun'] at hrun
      cases hrun
      obtain ⟨a, ha, hslot, hturn, hrequest, hresult⟩ := h.answer_of_holds hholds hdone
      obtain ⟨hcopy, hdecision⟩ := h.faithful a ha
      refine ⟨a, ha, (hr.answered a ha).1, hslot, hcopy.trans hturn, hturn, ?_,
        h.decided _ hdecision, ?_⟩
      · rw [hrequest, hturn]
      · rw [hresult]

/-- What a worker says that has no database to look at. -/
def noPostgres : String :=
  Text.singleLine (Shift.unreachable "postgres" (noDatabase "postgres"))

/-- The request of the first visit, as a worker copies it. -/
def visitCopy : Copy :=
  ⟨0, 1, (alices 0).request 1⟩

/-- The request of the first visit is copied. -/
def visitCopied : Traffic :=
  visitClaimed.after lone alices (.scan loneWorker)

/-- The worker has decided on it. -/
def visitDecided : Traffic :=
  visitCopied.after lone alices (.decide { mode := .on } loneWorker visitCopy)

/-- The verdict on it waits for the client. -/
def visitAnswered : Traffic :=
  visitDecided.after lone alices (.publish loneWorker visitCopy (some noPostgres))

/-- What the run comes to, moment by moment. -/
theorem visit_run :
    visitCopy ∈ visitCopied.copies ∧ visitCopy ∈ visitDecided.copies ∧
      visitDecided.turns visitCopy.slot = visitCopy.turn ∧
      ⟨loneWorker, visitCopy, some noPostgres⟩ ∈ visitDecided.decisions ∧
      visitAnswered.phase 0 = .waiting 1 ∧ visitAnswered.Alive alices 0 ∧
      (visitAnswered.slot lone 0).collect.2 = some (some noPostgres) ∧
      (alices 0).request 1 = ⟨1, { user := "alice" }, 0⟩ := by
  decide +kernel

/-- A worker that finds no database to look at writes into no slot. -/
theorem rewrites_decide_of_missing {settings : ClientAuthSettings} {r : Request} {w : Worker}
    {desk : Desk} (t : SlotTable) (hcheck : precheck settings r.connection = .queue)
    (hf : desk.host.faults = .none) (hheld : w.session = none)
    (hdb : desk.host.catalog.databases.get? settings.database = none) :
    Host.Rewrites t (desk.host.slot t) desk.host
      (Shift.decide settings r ⟨w, desk⟩).2.desk.host := by
  obtain ⟨log, hdecided⟩ := Shift.decide_of_missing (s := ⟨w, desk⟩) hcheck hf hheld hdb
  rw [hdecided]
  exact ⟨rfl, rfl, rfl⟩

theorem rewrites_visitDecided :
    Host.Rewrites lone (visitCopied.slot lone) visitCopied.desk.host
      (Shift.decide { mode := .on } visitCopy.request
        ⟨loneWorker, visitCopied.desk⟩).2.desk.host := by
  obtain ⟨hcheck, hfaults, hdb⟩ : precheck { mode := .on } visitCopy.request.connection = .queue ∧
      (∀ point ∈ FaultPoint.all, visitCopied.desk.host.faults.upcoming point = []) ∧
      (visitCopied.desk.host.catalog.databases.get? "postgres").isNone := by
    decide +kernel
  exact rewrites_decide_of_missing lone hcheck (FaultPlan.eq_none hfaults) rfl
    (Option.isNone_iff_eq_none.mp hdb)

theorem reaches_visitAnswered : Reaches lone alices (Proper alices) visitAnswered := by
  obtain ⟨hcopy, hcopy', hturns, hdecision, -⟩ := visit_run
  have hcopied : Reaches lone alices (Proper alices) visitCopied :=
    .move _ (.move _ (.start (fresh_loneDesk _)) rfl ⟨rfl, trivial, trivial⟩) rfl
      ⟨trivial, trivial, trivial⟩
  have hdecided : Reaches lone alices (Proper alices) visitDecided :=
    .move _ hcopied ⟨rfl, hcopy, rewrites_visitDecided⟩ ⟨trivial, trivial, trivial⟩
  refine .move _ hdecided ⟨rfl, hcopy'⟩ ⟨trivial, timely_of_le ?_, hdecision⟩
  exact Nat.le_of_eq hturns

/-- The verdict that waits is one on alice. -/
theorem own_verdict_visitAnswered :
    ∃ a ∈ visitAnswered.answers, a.copy.request = ⟨1, { user := "alice" }, 0⟩ ∧
      Verdict.abort noPostgres = .ofRejection (Slot.kept a.rejection) := by
  obtain ⟨-, -, -, -, hwaiting, halive, hcollect, hrequest⟩ := visit_run
  obtain ⟨desk, hrun, -⟩ :=
    collect_yields alices reaches_visitAnswered.recorded.maps 0
  rw [show (alices 0).slot lone = 0 from rfl, hcollect] at hrun
  obtain ⟨a, ha, -, -, -, -, hcopy, -, hverdict⟩ :=
    (own_verdict reaches_visitAnswered).1 0 1 _ desk hwaiting halive hrun
  exact ⟨a, ha, hcopy.trans hrequest, hverdict⟩

end Admission.Traffic
