import Admission.Proofs.Wakeup.Whole

set_option autoImplicit false

/-!
# No wakeup is lost

Whatever the parties at a table do, and in whatever order, nobody sleeps while there is
something for it, unless somebody is about to ring for it.
-/

namespace Admission

/-- Who runs runs on when another process dies. -/
theorem Processes.isAlive_without {ps : Processes} {pid other : Pid} (hne : other ≠ pid)
    (h : ps.isAlive other = true) : (ps.without pid).isAlive other = true := by
  simp only [isAlive, without, Bool.and_eq_true, List.contains_iff_mem, List.mem_filter] at h ⊢
  exact ⟨h.1, h.2, by simpa using hne⟩

namespace Vigil

variable {t : SlotTable} {errand : Nat → Errand} {ω : Vigil}

namespace Sound

/-- At a fresh table nobody has noted anything. -/
theorem start {d : Desk} (hfresh : Traffic.Fresh t d) : (start t d).Sound t errand where
  reaches := .start hfresh
  counted _ _ := UInt32.ofNat_toNat.symm
  good _ := .awake rfl

variable (h : ω.Sound t errand)

include h

/-- Whatever happens beside the table keeps a vigil sound, if those that wake up by it owed
nothing, and all others listen on. -/
theorem frame {σ : Traffic} {stations : Party → Station}
    (hreaches : Traffic.Reaches t errand (Traffic.Orderly errand) σ)
    (hslot : ∀ s : Nat, σ.slot t s = ω.slot t s)
    (hbell : ∀ b : Bell, σ.desk.host.bell t b = ω.bell t b)
    (hcopies : σ.copies = ω.traffic.copies)
    (hstations : ∀ p : Party, stations p = .awake ∧ (∀ bells, ω.station p ≠ .owes bells) ∨
      stations p = ω.station p ∧ ∀ b : Bell, ω.Listens t errand p b →
        Listens t errand { ω with traffic := σ, station := stations } p b) :
    Sound t errand { ω with traffic := σ, station := stations } where
  reaches := hreaches
  counted b hb := (congrArg Signal.sent (hbell b)).trans (h.counted b hb)
  good p := by
    obtain ⟨hawake, -⟩ | ⟨hsame, hlistens⟩ := hstations p
    · exact .awake hawake
    have howes : ∀ (q : Party) (b : Bell), ω.Owes q b →
        Owes { ω with traffic := σ, station := stations } q b := by
      rintro q b ⟨bells, hbells, hb⟩
      obtain ⟨-, hno⟩ | ⟨hq, -⟩ := hstations q
      · exact absurd hbells (hno bells)
      · exact ⟨bells, hq.trans hbells, hb⟩
    refine ⟨fun n hn => ?_, fun b hb => ?_, fun n hn => (h.good p).asleep n (hsame ▸ hn),
      fun copy hcopy => ?_, fun bells hbells => (h.good p).owes bells (hsame ▸ hbells)⟩
    · obtain ⟨hold, hticket⟩ := (h.good p).note n (hsame ▸ hn)
      exact ⟨hlistens _ hold, hticket⟩
    · obtain ⟨n, hn, hrelies⟩ := hb
      exact ((h.good p).content b ⟨n, hsame ▸ hn, hrelies⟩).of_slots (fun q => howes q b) hslot
    · exact hcopies ▸ (h.good p).busy copy (hsame ▸ hcopy)

theorem die {pid : Pid} (ha : ω.Permits t errand (.die pid)) :
    (ω.after t errand (.die pid)).Sound t errand := by
  refine h.frame (.move _ h.reaches trivial trivial) (fun _ => rfl) (fun _ => rfl) rfl fun p => ?_
  cases p with
  | worker i => exact .inr ⟨rfl, fun _ => id⟩
  | client v =>
    by_cases hpid : (errand v).pid = pid
    · exact .inl ⟨if_pos hpid, ha v hpid⟩
    · refine .inr ⟨if_neg hpid, ?_⟩
      rintro b ⟨halive, hb⟩
      exact ⟨Processes.isAlive_without hpid halive, hb⟩

theorem elsewhere {desk : Desk} (ha : ω.Permits t errand (.elsewhere desk)) :
    (ω.after t errand (.elsewhere desk)).Sound t errand := by
  obtain ⟨hleft, hbell⟩ := ha
  exact h.frame (.move _ h.reaches hleft trivial) hleft.slot_at hbell rfl fun p =>
    .inr ⟨rfl, fun b hb => hb.congr hleft.processes_eq fun _ _ => rfl⟩

/-- Every act keeps a vigil sound. -/
theorem after {a : Act} (ha : ω.Permits t errand a) : (ω.after t errand a).Sound t errand := by
  cases a with
  | note p b => exact h.note ha
  | claim v woken => exact h.claim ha
  | collect v => exact h.collect ha
  | abandon v => exact h.abandon ha
  | turnAway v => exact h.turnAway ha
  | scan w => exact h.scan ha
  | publish w copy rejection => exact h.publish ha
  | sleep p => exact h.sleep ha
  | wake p => exact h.wake ha
  | ring p woken => exact h.ring ha
  | die pid => exact h.die ha
  | replace i => exact h.replace ha
  | elsewhere desk => exact h.elsewhere ha

end Sound

theorem Reaches.sound (h : Reaches t errand ω) : ω.Sound t errand := by
  induction h with
  | start hfresh => exact .start hfresh
  | act a _ ha ih => exact ih.after ha

variable (t errand) in
/-- Nobody sleeps through what it waits for. -/
structure Wakeful (ω : Vigil) : Prop where
  /-- Who sleeps runs and waits for what the bell tells, and its ticket is up to date. -/
  current : ∀ (p : Party) (n : Note), ω.station p = .asleep n →
    ω.Listens t errand p n.bell ∧ (ω.bell t n.bell).sleeps n.ticket = true
  /-- A worker does not sleep while a request is pending in one of its slots. -/
  worker : ∀ (i : Nat) (n : Note), ω.station (.worker i) = .asleep n →
    ∀ s ∈ t.layout.slotsOfWorker i, (ω.slot t s).done = true
  /-- A client does not sleep on when its request is answered, but for a worker that has
  still to signal it. -/
  client : ∀ (v : Nat) (n : Note), ω.station (.client v) = .asleep n →
    n.bell = .answered ((errand v).slot t) → (ω.slot t ((errand v).slot t)).done = true →
      ∃ i : Nat, ω.Owes (.worker i) (.answered ((errand v).slot t))
  /-- Nor does who wants to claim a slot that is free, but for somebody who has still to
  broadcast that. -/
  claimer : ∀ (v : Nat) (n : Note), ω.station (.client v) = .asleep n →
    n.bell = .freed ((errand v).slot t) → (ω.slot t ((errand v).slot t)).isIdle = true →
      ∃ p : Party, ω.Owes p (.freed ((errand v).slot t))

/-- No wakeup is lost, where the acts of the parties come to the steps of clients and
workers. -/
theorem Reaches.wakeful (h : Reaches t errand ω) : ω.Wakeful t errand ∧ ω.Whole t errand := by
  have hs := h.sound
  refine ⟨?_, hs.whole⟩
  -- Who sleeps relies on what it saw before.
  have hcontent : ∀ (p : Party) (n : Note), ω.station p = .asleep n → ω.Content t n.bell :=
    fun p n hn => (hs.good p).content n.bell ⟨n, .inr hn, rfl, (hs.good p).asleep n hn⟩
  refine ⟨fun p n hn => ?current, fun i n hn => ?worker, fun v n hn hbell hdone => ?client,
    fun v n hn hbell hidle => ?claimer⟩
  case current =>
    obtain ⟨hlistens, hticket, -⟩ := (hs.good p).note n (by rw [hn]; rfl)
    refine ⟨hlistens, beq_iff_eq.mpr ?_⟩
    rw [hs.counted n.bell (hlistens.on hs.maps.valid), hticket, (hs.good p).asleep n hn]
  case worker =>
    obtain ⟨⟨-, hbell⟩, -⟩ := (hs.good (.worker i)).note n (by rw [hn]; rfl)
    have hwork := hcontent _ n hn
    rw [hbell] at hwork
    exact hwork
  case client =>
    have hcases := hbell ▸ hcontent _ n hn
    exact hcases.resolve_left (by rw [hdone]; nofun)
  case claimer =>
    have hcases := hbell ▸ hcontent _ n hn
    exact hcases.resolve_left (by rw [hidle]; nofun)

open Traffic (lone alices loneDesk loneWorker)

/-- The first visit has claimed the slot of the lone table. -/
def napClaimed : Vigil :=
  ((start lone (loneDesk [7])).after lone alices (.note (.client 0) (.freed 0))).after lone alices
    (.claim 0 none)

/-- It found no answer yet. -/
def napLooked : Vigil :=
  (napClaimed.after lone alices (.note (.client 0) (.answered 0))).after lone alices (.collect 0)

/-- It sleeps, and the worker has copied its request. -/
def napCopied : Vigil :=
  ((napLooked.after lone alices (.sleep (.client 0))).after lone alices
    (.note (.worker 0) (.work 0))).after lone alices (.scan loneWorker)

/-- The worker has put the verdict in, and not signalled yet. -/
def napAnswered : Vigil :=
  napCopied.after lone alices (.publish loneWorker ⟨0, 1, (alices 0).request 1⟩ none)

/-- What the run comes to, moment by moment. -/
theorem nap_run :
    napClaimed.station (.client 0) = .awake ∧ napClaimed.traffic.phase 0 = .waiting 1 ∧
      napClaimed.traffic.Alive alices 0 ∧
      napLooked.station (.client 0) = .looked ⟨.answered 0, 0, 0⟩ ∧
      napLooked.rings (.answered 0) = 0 ∧
      (napLooked.after lone alices (.sleep (.client 0))).station (.worker 0) = .awake ∧
      napCopied.station (.worker loneWorker.index) = .busy ⟨0, 1, (alices 0).request 1⟩ ∧
      napAnswered.station (.client 0) = .asleep ⟨.answered 0, 0, 0⟩ ∧
      (napAnswered.slot lone 0).done = true := by
  decide +kernel

theorem reaches_napLooked : Reaches lone alices napLooked := by
  obtain ⟨hawake, hwaiting, halive, -⟩ := nap_run
  have hclaimed : Reaches lone alices napClaimed := by
    refine .act _ (.act _ (.start (Traffic.fresh_loneDesk _)) ⟨rfl, rfl, .inl ⟨rfl, rfl⟩⟩)
      ⟨⟨_, rfl⟩, rfl, rfl, .inr ?_⟩
    -- Nobody sleeps yet.
    rintro p ⟨n, hn, -⟩
    by_cases hp : p = .client 0
    · rw [hp] at hn
      cases hn
    · cases (station_turn_of_ne hp).symm.trans hn
  have hnoted := Reaches.act (.note (.client 0) (.answered 0)) hclaimed
    ⟨hawake, halive, .inr ⟨⟨1, hwaiting⟩, rfl⟩⟩
  refine hnoted.act (.collect 0) ⟨⟨_, station_turn_self⟩, ?_, 1, ?_⟩
  · rw [after_note, traffic_turn]
    exact halive
  · rw [after_note, traffic_turn]
    exact hwaiting

theorem reaches_napCopied : Reaches lone alices napCopied := by
  obtain ⟨-, -, -, hlooked, hrings, hidle, -⟩ := nap_run
  have hasleep := reaches_napLooked.act (.sleep (.client 0))
    ⟨_, hlooked, by rw [hrings]; decide⟩
  have hnoted := hasleep.act (.note (.worker 0) (.work 0)) ⟨hidle, by decide, rfl⟩
  exact hnoted.act (.scan loneWorker) ⟨rfl, by decide, _, station_turn_self⟩

theorem reaches_napAnswered : Reaches lone alices napAnswered := by
  obtain ⟨-, -, -, -, -, -, hbusy, -⟩ := nap_run
  exact reaches_napCopied.act (.publish loneWorker _ none) ⟨rfl, hbusy⟩

/-- The client that sleeps there is owed its signal. -/
theorem wakeful_napAnswered :
    (∃ n : Note, napAnswered.station (.client 0) = .asleep n ∧
      (napAnswered.bell lone n.bell).sleeps n.ticket = true) ∧
    (napAnswered.slot lone 0).done = true ∧
    ∃ i : Nat, napAnswered.Owes (.worker i) (.answered 0) := by
  obtain ⟨-, -, -, -, -, -, -, hasleep, hdone⟩ := nap_run
  obtain ⟨hwakeful, -⟩ := reaches_napAnswered.wakeful
  exact ⟨⟨_, hasleep, (hwakeful.current _ _ hasleep).2⟩, hdone,
    hwakeful.client 0 _ hasleep rfl hdone⟩

end Vigil

end Admission
