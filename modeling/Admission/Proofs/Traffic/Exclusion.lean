import Admission.Proofs.Traffic.Parties

set_option autoImplicit false

/-!
# Mutual exclusion at a slot

What orderly clients may rely on at every moment: one of them at a time has a slot,
nobody else writes into it until its verdict is read or the client is gone, and
whoever is done with a slot leaves it to the next.  The moments are those of the programs:
round trips of clients, with all their pauses, and polls of workers lead from one to the
next.
-/

namespace Admission.Traffic

variable (t : SlotTable) (errand : Nat → Errand)

/-- The visit is about to claim the slot, and its process runs. -/
structure Claims (σ : Traffic) (visit slot : Nat) : Prop where
  slot_eq : (errand visit).slot t = slot
  arriving : σ.phase visit = .arriving
  alive : σ.Alive errand visit

/-- What clients may rely on. -/
structure Exclusive (σ : Traffic) : Prop where
  /-- No two visits hold one slot. -/
  single : ∀ s v w : Nat, σ.Holds t errand v s → σ.Holds t errand w s → v = w
  /-- A slot that is held is not available, and carries the request of its holder. -/
  carried : ∀ s v : Nat, σ.Holds t errand v s →
    (σ.slot t s).available = false ∧ (σ.slot t s).Carries (errand v)
  /-- A slot that is neither available nor held was left by a process that is gone, and
  the next claim takes it from there: for itself if the answer is in, and else it gives
  the slot back. -/
  left : ∀ s < t.layout.slots, (σ.slot t s).available = false →
    (∀ v : Nat, ¬ σ.Holds t errand v s) →
    σ.processes.isAlive (σ.slot t s).owner = false ∧
    ∀ w : Nat, σ.Claims t errand w s →
      ((σ.slot t s).done = true → (σ.after t errand (.claim w)).Holds t errand w s) ∧
      ((σ.slot t s).done = false → (σ.after t errand (.claim w)).slot t s =
        { σ.slot t s with available := true })
  /-- No claim overwrites a request that is not answered, or one whose holder has not
  read the answer, and in the latter case it changes nothing at all. -/
  busy : ∀ s w : Nat, σ.phase w = .arriving →
    (σ.slot t s).done = false ∨ (∃ v : Nat, σ.Holds t errand v s) →
    (σ.slot t s).Loosened ((σ.after t errand (.claim w)).slot t s) ∧
    ((∃ v : Nat, σ.Holds t errand v s) →
      (σ.after t errand (.claim w)).slot t s = σ.slot t s) ∧
    ((errand w).slot t = s → (σ.after t errand (.claim w)).phase w = .arriving)
  /-- Who has a verdict to tell, or gave up, holds no slot: each that is not available
  was claimed last by another, who still waits or died waiting. -/
  returned : ∀ (v : Nat) (verdict : Verdict), (σ.phase v).verdict? = some verdict →
    ∀ s < t.layout.slots, (σ.slot t s).available = false →
      ∃ w : Nat, w ≠ v ∧ (errand w).slot t = s ∧ σ.phase w = .waiting (σ.turns s)
  /-- A slot that nobody holds is idle or left by a process that is gone, once it is
  answered, and the next claim of it is granted. -/
  free : ∀ s < t.layout.slots, (∀ v : Nat, ¬ σ.Holds t errand v s) →
    (σ.slot t s).done = true →
    ((σ.slot t s).isIdle = true ∨ (σ.slot t s).heldByDead σ.processes = true) ∧
    ∀ w : Nat, σ.Claims t errand w s → (σ.after t errand (.claim w)).Holds t errand w s

/-- The round trip of a visit is over with a verdict, at a moment like all others, and its
client holds no slot. -/
structure Returned (v : Nat) (verdict : Verdict) (σ : Traffic) : Prop where
  reaches : Reaches t errand (Orderly errand) σ
  verdict_eq : (σ.phase v).verdict? = some verdict
  holds_none : ∀ s : Nat, ¬ σ.Holds t errand v s

variable {t errand} {σ : Traffic} {s : Nat}

section Claim

variable (hm : σ.desk.host.Maps t) {w : Nat}

include hm

/-- A claim leaves all slots but its own alone. -/
theorem slot_after_claim_of_ne (h : (errand w).slot t ≠ s) :
    (σ.after t errand (.claim w)).slot t s = σ.slot t s := by
  by_cases hclaimable : σ.Claimable t ((errand w).slot t)
  · obtain ⟨desk, -, hafter, hleft⟩ := after_claim_granted hm w hclaimable
    rw [hafter]
    exact hleft.slot_of_ne (Ne.symm h)
  · obtain ⟨desk, -, hafter, hleft⟩ := after_claim_refused hm w hclaimable
    rw [hafter]
    exact hleft.slot_of_ne (Ne.symm h)

/-- A claim that is refused makes a reclaim of its slot at most, and does not arrive. -/
theorem after_claim_of_not_claimable (h : (errand w).slot t = s) (hnot : ¬ σ.Claimable t s) :
    (σ.after t errand (.claim w)).slot t s = (σ.slot t s).reclaim σ.processes ∧
      (σ.after t errand (.claim w)).phase w = σ.phase w := by
  subst h
  obtain ⟨desk, -, hafter, hleft⟩ := after_claim_refused hm w hnot
  rw [hafter]
  exact ⟨hleft.slot_self, rfl⟩

/-- A claim that is granted makes its visit the holder. -/
theorem Claims.holds (h : σ.Claims t errand w s) (hclaimable : σ.Claimable t s) :
    (σ.after t errand (.claim w)).Holds t errand w s := by
  obtain ⟨rfl, -, halive⟩ := h
  obtain ⟨desk, -, hafter, hleft⟩ := after_claim_granted hm w hclaimable
  rw [hafter]
  exact ⟨rfl, ⟨_, granted_phase_self _ _ _ _⟩, (alive_iff hleft).mpr halive⟩

end Claim

/-- The owner of a slot that is not available has made the latest claim and waits, or
waited when it died. -/
theorem Owned.owner_of_taken (hr : σ.Recorded t errand) (ho : σ.Owned t errand s)
    (hs : s < t.layout.slots) (hflag : (σ.slot t s).available = false) :
    ∃ v : Nat, (errand v).slot t = s ∧ σ.phase v = .waiting (σ.turns s) ∧
      (σ.slot t s).owner = (errand v).pid := by
  obtain ⟨v, hslot, hwaiting⟩ := ho.taken hflag
  have hv : σ.Claimed t errand v s (σ.turns s) := ⟨hslot, by rw [hwaiting]; rfl⟩
  obtain ⟨u, hu, hcarries⟩ := (hr.agrees s hs).latest (hr.turn_le v s _ hv).1
  obtain rfl := hr.unique v u s _ hv hu
  exact ⟨v, hslot, hwaiting, hcarries.owner_eq⟩

/-- The owner of a slot that is neither available nor held is gone. -/
theorem Owned.owner_dead (hr : σ.Recorded t errand) (ho : σ.Owned t errand s)
    (hs : s < t.layout.slots) (hflag : (σ.slot t s).available = false)
    (hnone : ∀ v : Nat, ¬ σ.Holds t errand v s) :
    σ.processes.isAlive (σ.slot t s).owner = false := by
  obtain ⟨v, hslot, hwaiting, howner⟩ := ho.owner_of_taken hr hs hflag
  rw [howner, ← Bool.not_eq_true]
  exact fun halive => hnone v ⟨hslot, ⟨_, hwaiting⟩, halive⟩

/-- Who has something to tell holds no slot. -/
theorem Reaches.returned (h : Reaches t errand (Orderly errand) σ) {v : Nat} {verdict : Verdict}
    (hv : (σ.phase v).verdict? = some verdict) : Returned t errand v verdict σ := by
  refine ⟨h, hv, ?_⟩
  rintro s ⟨-, ⟨turn, hwaiting⟩, -⟩
  exact Phase.ne_waiting_of_verdict? hv turn hwaiting

/-- At every moment clients may rely on what `Exclusive` says.  From there the programs of
all parties go on by moves.  A round trip from there, whatever others do in its pauses, is
over with a verdict at another such moment, and its client holds no slot; and one with no
time comes to an end. -/
theorem Reaches.exclusive (h : Reaches t errand (Orderly errand) σ) :
    σ.Exclusive t errand ∧
    σ.Driven t errand (Orderly errand) ∧
    (∀ (deadline : Option Nat) (v : Nat) (verdict : Verdict) (σ' : Traffic),
      Trip t errand (Orderly errand) deadline v σ verdict σ' →
        Returned t errand v verdict σ') ∧
    ∀ v : Nat, σ.phase v = .arriving → σ.Alive errand v →
      ∃ (verdict : Verdict) (σ' : Traffic),
        ((errand v).client t).roundTrip (errand v).connection (errand v).status σ.desk =
          (.done verdict, σ'.desk) ∧
        Trip t errand (Orderly errand) (some 0) v σ verdict σ' ∧
        Returned t errand v verdict σ' := by
  have hr := h.recorded
  have ho := h.owned
  refine
    ⟨{ single := fun s v w hv hw => hv.unique hr ho hw
       carried := fun s v hv => (hv.spec hr ho).2
       left := fun s hs hflag hnone => ?left
       busy := fun s w hw hbusy => ?busy
       returned := fun v verdict hv s hs hflag => ?returned
       free := fun s hs hnone hdone => ?free },
      hr.driven.mono fun _ _ hproper => hproper.1, fun deadline v verdict σ' htrip => ?trip,
      fun v hv halive => ?roundTrip⟩
  case left =>
    have hdead := (ho s hs).owner_dead hr hs hflag hnone
    refine ⟨hdead, fun w hw => ⟨fun hdone => hw.holds hr.maps ⟨hdone, .inr hdead⟩, fun hdone => ?_⟩⟩
    have hnot : ¬ σ.Claimable t s := by
      rintro ⟨hdone', -⟩
      rw [hdone] at hdone'
      cases hdone'
    rw [(after_claim_of_not_claimable hr.maps hw.slot_eq hnot).1, Slot.reclaim,
      if_pos (Slot.heldByDead_iff.mpr ⟨hflag, hdead⟩)]
  case busy =>
    have hnot : ¬ σ.Claimable t s := by
      intro hclaimable
      rcases hbusy with hdone | ⟨v, hv⟩
      · rw [hclaimable.1] at hdone
        cases hdone
      · exact not_claimable_of_holds hr ho hv hclaimable
    by_cases hslot : (errand w).slot t = s
    · obtain ⟨hafter, hphase⟩ := after_claim_of_not_claimable hr.maps hslot hnot
      rw [hafter, hphase]
      refine ⟨.reclaim _ _, ?_, fun _ => hw⟩
      rintro ⟨v, hv⟩
      exact reclaim_of_holds hr ho hv
    · rw [slot_after_claim_of_ne hr.maps hslot]
      exact ⟨.refl _, fun _ => rfl, fun heq => absurd heq hslot⟩
  case returned =>
    obtain ⟨w, hslot, hwaiting⟩ := (ho s hs).taken hflag
    refine ⟨w, ?_, hslot, hwaiting⟩
    rintro rfl
    exact Phase.ne_waiting_of_verdict? hv _ hwaiting
  case free =>
    cases hflag : (σ.slot t s).available with
    | true =>
      exact ⟨.inl (Slot.isIdle_iff.mpr ⟨hflag, hdone⟩),
        fun w hw => hw.holds hr.maps ⟨hdone, .inl hflag⟩⟩
    | false =>
      have hdead := (ho s hs).owner_dead hr hs hflag hnone
      exact ⟨.inr (Slot.heldByDead_iff.mpr ⟨hflag, hdead⟩),
        fun w hw => hw.holds hr.maps ⟨hdone, .inr hdead⟩⟩
  case trip =>
    obtain ⟨hleads, htells⟩ := htrip.leads
    exact (hleads.reaches h).returned htells
  case roundTrip =>
    obtain ⟨verdict, σ', hrun, hproper⟩ := hr.roundTrip halive hv
    have htrip := hproper.mono fun _ _ hproper => hproper.1
    obtain ⟨hleads, htells⟩ := htrip.leads
    exact ⟨verdict, σ', hrun, htrip, (hleads.reaches h).returned htells⟩

/-- It has looked for the verdict in vain, and a worker has copied its request since. -/
def visitScanned : Traffic :=
  (visitClaimed.after lone alices (.collect 0)).after lone alices (.scan loneWorker)

/-- The worker has turned the request down. -/
def visitRefused : Traffic :=
  visitScanned.after lone alices (.publish loneWorker ⟨0, 1, (alices 0).request 1⟩ (some "no"))

/-- What the run comes to, moment by moment. -/
theorem visitRefused_run :
    visitClaimed.phase 0 = .waiting 1 ∧ visitClaimed.Alive alices 0 ∧
      (visitClaimed.slot lone 0).done = false ∧ visitClaimed.phase 1 = .arriving ∧
      (visitClaimed.after lone alices (.collect 0)).phase 0 = .waiting 1 ∧
      ⟨0, 1, (alices 0).request 1⟩ ∈ visitScanned.copies ∧
      visitRefused.phase 0 = .waiting 1 ∧ visitRefused.Alive alices 0 ∧
      (visitRefused.slot lone 0).done = true ∧
      (visitRefused.slot lone 0).result? = some "no" := by
  decide +kernel

theorem reaches_visitClaimed : Reaches lone alices (Orderly alices) visitClaimed :=
  .move _ (.start (fresh_loneDesk _)) rfl rfl

/-- The first visit gets the verdict of the worker after a look in vain. -/
theorem trip_visitClaimed :
    ∃ σ : Traffic, Trip lone alices (Orderly alices) none 0 visitClaimed (.abort "no") σ := by
  obtain ⟨hwaiting, halive, hpending, -, hlooked, hcopy, hrefused, halive', hdone, hresult⟩ :=
    visitRefused_run
  have hr := reaches_visitClaimed.recorded
  have hlooks := (advances_pending hr halive hwaiting hpending
    (by simp [Late] : ¬ visitClaimed.Late none)).mono fun _ _ hproper => hproper.1
  have hothers : Leads lone alices (Orderly alices)
      (visitClaimed.after lone alices (.collect 0)) visitRefused :=
    ((Leads.refl _).move (.scan loneWorker) rfl trivial).move _ ⟨rfl, hcopy⟩ trivial
  obtain ⟨desk, -, hfinds⟩ := advances_answered ((hlooks.leads.trans hothers).recorded hr)
    halive' hrefused none hdone
  refine ⟨_, .pause hlooks hothers (hrefused.trans hlooked.symm) halive'
    (.last (hfinds.mono fun _ _ hproper => hproper.1) ?_)⟩
  rw [cameTo_phase_self, show (alices 0).slot lone = 0 from rfl, hresult]
  rfl

/-- The second visit changes nothing when it tries to claim the slot as well, and the first
one holds nothing when it has the verdict. -/
theorem exclusive_visitClaimed :
    visitClaimed.Holds lone alices 0 0 ∧
      (visitClaimed.after lone alices (.claim 1)).slot lone 0 = visitClaimed.slot lone 0 ∧
      ∃ σ : Traffic, Trip lone alices (Orderly alices) none 0 visitClaimed (.abort "no") σ ∧
        Returned lone alices 0 (.abort "no") σ := by
  obtain ⟨hwaiting, halive, -, harriving, -⟩ := visitRefused_run
  have hholds : visitClaimed.Holds lone alices 0 0 := ⟨rfl, ⟨1, hwaiting⟩, halive⟩
  obtain ⟨hexclusive, -, htrips, -⟩ := Reaches.exclusive reaches_visitClaimed
  obtain ⟨-, hsame, -⟩ := hexclusive.busy 0 1 harriving (.inr ⟨0, hholds⟩)
  obtain ⟨σ, htrip⟩ := trip_visitClaimed
  exact ⟨hholds, hsame ⟨0, hholds⟩, σ, htrip, htrips none 0 _ σ htrip⟩

end Admission.Traffic
