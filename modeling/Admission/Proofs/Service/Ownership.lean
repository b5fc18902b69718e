import Admission.Proofs.Service.Request
import Admission.Proofs.Table.Header

set_option autoImplicit false

/-!
# Whose pool it is

A service that is begun either runs the pool of a table, and then its process is the
recorded owner, or it has nothing to do with who that is.  What a service does when it
begins and when it ends is told here by what becomes of the owners.
-/

namespace Admission

namespace Front

/-- The service runs the pool of this table. -/
def Runs (f : Front) (t : SlotTable) : Prop :=
  f.state = .running ∧ f.table = some t

/-- The service runs no pool. -/
structure Idle (f : Front) : Prop where
  state_ne : f.state ≠ .running
  ownsPool_eq : f.ownsPool = false

theorem Idle.not_runs {f : Front} (h : f.Idle) (t : SlotTable) : ¬ f.Runs t :=
  fun hruns => h.state_ne hruns.1

end Front

namespace Service

/-- What is met of a service that was to be begun; without one, what is met under a name
that nobody has. -/
def frontOf : Except PoolError Service → Front
  | .ok service => service.front
  | .error _ => (default : Service).front

/-- How the host and the front are when the beginning of a service is over. -/
inductive Begins (h : Host) (f : Front) (h' : Host) : Prop
  /-- It failed, it needs no pool, or another process runs the pool. -/
  | without (l : Layout) (idle : f.Idle) (processes_eq : h'.processes = h.processes)
      (prepared : h.memory.Prepared l h'.memory)
  /-- It claimed the pool of a table that had no running owner, and gave it up. -/
  | gaveUp (l : Layout) (h₁ : Host) (t : SlotTable) (idle : f.Idle)
      (processes_eq : h₁.processes = h.processes) (prepared : h.memory.Prepared l h₁.memory)
      (dead : h.processes.isAlive (h₁.ownerOf t.segment) = false) (owned : h₁.OwnedBy t 0 h')
  /-- It claimed such a pool and runs it. -/
  | runs (l : Layout) (h₁ : Host) (t : SlotTable) (state : f.Runs t) (ownsPool : f.ownsPool = true)
      (processes_eq : h₁.processes = h.processes) (prepared : h.memory.Prepared l h₁.memory)
      (ready : (h₁.memory.header t.segment).readiness = .ready)
      (dead : h.processes.isAlive (h₁.ownerOf t.segment) = false)
      (owned : h₁.OwnedBy t h.processes.self h')

/-- A running owner that a table records is still recorded then. -/
theorem Begins.ownerOf_eq {h h' : Host} {f : Front} (hb : Begins h f h') {n : Nat}
    (halive : h.processes.isAlive (h.ownerOf n) = true)
    (hwritten : (h.memory.header n).readiness ≠ .untouched) : h'.ownerOf n = h.ownerOf n := by
  have hprepared : ∀ {l : Layout} {h₁ : Host}, h.memory.Prepared l h₁.memory →
      h₁.ownerOf n = h.ownerOf n := fun h₁ => by
    rw [Host.ownerOf, h₁.header_eq hwritten]
    rfl
  have hother : ∀ {h₁ : Host} {t : SlotTable}, h₁.ownerOf n = h.ownerOf n →
      h.processes.isAlive (h₁.ownerOf t.segment) = false → n ≠ t.segment := by
    rintro h₁ t hsame hdead rfl
    rw [hsame, halive] at hdead
    cases hdead
  cases hb with
  | without l idle processes_eq prepared => exact hprepared prepared
  | gaveUp l h₁ t idle processes_eq prepared dead owned =>
    have hsame := hprepared prepared
    exact (owned.ownerOf_of_ne (hother hsame dead)).trans hsame
  | runs l h₁ t runs owns processes_eq prepared ready dead owned =>
    have hsame := hprepared prepared
    exact (owned.ownerOf_of_ne (hother hsame dead)).trans hsame

/-! ## Starting a pool -/

section StartPool

variable (live : LiveSettings) {t : SlotTable} {h : Host}

/-- A table whose owner runs is only used. -/
theorem startPool_of_alive (hready : (h.memory.header t.segment).readiness = .ready)
    (halive : h.processes.isAlive (h.ownerOf t.segment) = true) :
    (startPool live t h).1 = { settings := live, table := some t, state := .attached } ∧
      h.OwnedBy t (h.ownerOf t.segment) (startPool live t h).2 := by
  obtain ⟨hclaim, hown⟩ := Host.claimPool_of_alive hready halive
  unfold startPool
  generalize h.claimPool t = result at *
  obtain ⟨claim, h'⟩ := result
  obtain rfl : claim = _ := hclaim
  exact ⟨rfl, hown.say _⟩

/-- Otherwise the pool is claimed, and given up again if there are too few workers. -/
theorem startPool_of_scarce (hready : (h.memory.header t.segment).readiness = .ready)
    (hdead : h.processes.isAlive (h.ownerOf t.segment) = false)
    (hscarce : live.startup.host.maxWorkerProcesses < live.startup.clientauth.workers) :
    (startPool live t h).1 = { settings := live, table := some t, state := .exhausted } ∧
      h.OwnedBy t 0 (startPool live t h).2 := by
  obtain ⟨hclaim, hown⟩ := Host.claimPool_of_dead hready hdead
  unfold startPool
  generalize h.claimPool t = result at *
  obtain ⟨claim, h₁⟩ := result
  dsimp only at hclaim hown ⊢
  have hgiveUp : ∀ lines : List LogLine, h.OwnedBy t 0 ((h₁.say lines).releasePool t) := by
    intro lines
    have hsaid := hown.say lines
    refine hsaid.trans (Host.releasePool_of_own ((hsaid.readiness_eq _).trans hready) ?_)
    rw [hsaid.ownerOf_self, hsaid.processes_eq]
  cases claim with
  | refused owner => exact absurd rfl (hclaim owner)
  | owned => rw [if_pos hscarce]; exact ⟨rfl, hgiveUp _⟩
  | tookOver previous => rw [if_pos hscarce]; exact ⟨rfl, hgiveUp _⟩

theorem startPool_of_enough (hready : (h.memory.header t.segment).readiness = .ready)
    (hdead : h.processes.isAlive (h.ownerOf t.segment) = false)
    (henough : live.startup.clientauth.workers ≤ live.startup.host.maxWorkerProcesses) :
    (startPool live t h).1.front.Runs t ∧ (startPool live t h).1.ownsPool = true ∧
      h.OwnedBy t h.processes.self (startPool live t h).2 := by
  obtain ⟨hclaim, hown⟩ := Host.claimPool_of_dead hready hdead
  unfold startPool
  generalize h.claimPool t = result at *
  obtain ⟨claim, h₁⟩ := result
  dsimp only at hclaim hown ⊢
  cases claim with
  | refused owner => exact absurd rfl (hclaim owner)
  | owned => rw [if_neg (Nat.not_lt.mpr henough)]; exact ⟨⟨rfl, rfl⟩, rfl, hown.say _⟩
  | tookOver previous => rw [if_neg (Nat.not_lt.mpr henough)]; exact ⟨⟨rfl, rfl⟩, rfl, hown.say _⟩

end StartPool

/-! ## Beginning a service -/

section Begin

variable {settings : Settings} {h : Host}

theorem idle_frontOf_error (e : PoolError) : (frontOf (.error e)).Idle :=
  ⟨nofun, rfl⟩

theorem begins_startPool {live : LiveSettings} {l : Layout} {t : SlotTable} {h₁ : Host}
    (hprocesses : h₁.processes = h.processes) (hprepared : h.memory.Prepared l h₁.memory)
    (hready : (h₁.memory.header t.segment).readiness = .ready) :
    Begins h (startPool live t h₁).1.front (startPool live t h₁).2 := by
  cases halive : h₁.processes.isAlive (h₁.ownerOf t.segment) with
  | true =>
    obtain ⟨hservice, hown⟩ := startPool_of_alive live hready halive
    rw [hservice]
    refine .without l ⟨nofun, rfl⟩ (hown.processes_eq.trans hprocesses) fun k => ?_
    have hk : (startPool live t h₁).2.memory.header k = h₁.memory.header k := by
      rw [hown.header_eq]
      split
      · next hk => rw [hk]; rfl
      · rfl
    rw [hk]
    exact hprepared k
  | false =>
    rw [hprocesses] at halive
    by_cases hscarce : live.startup.host.maxWorkerProcesses < live.startup.clientauth.workers
    · obtain ⟨hservice, hown⟩ := startPool_of_scarce live hready (hprocesses ▸ halive) hscarce
      rw [hservice]
      exact .gaveUp l h₁ t ⟨nofun, rfl⟩ hprocesses hprepared halive hown
    · obtain ⟨hruns, howns, hown⟩ :=
        startPool_of_enough live hready (hprocesses ▸ halive) (Nat.not_lt.mp hscarce)
      rw [hprocesses] at hown
      exact .runs l h₁ t hruns howns hprocesses hprepared hready halive hown

theorem begins_start (settings : Settings) (h : Host) :
    Begins h (frontOf (start settings h).1) (start settings h).2 := by
  have hnothing : ∀ l : Layout, h.memory.Prepared l h.memory := fun l => .of_eq fun _ => rfl
  unfold start
  split
  · exact .without ⟨0, 0⟩ (idle_frontOf_error _) rfl (hnothing _)
  · dsimp only
    split
    · exact .without ⟨0, 0⟩ ⟨nofun, rfl⟩ rfl (hnothing _)
    · split
      · exact .without ⟨0, 0⟩ (idle_frontOf_error _) rfl (hnothing _)
      · next l _ =>
        have hopens := SlotTable.opens_attach h.memory settings.clientauth.segment l
        split
        · exact .without l (idle_frontOf_error _) rfl hopens.prepared
        · next t ht =>
          exact begins_startPool rfl hopens.prepared (hopens.table t ht).2

theorem begins_attach (settings : Settings) (h : Host) :
    Begins h (frontOf (attach settings h).1) (attach settings h).2 := by
  have hnothing : h.memory.Prepared ⟨0, 0⟩ h.memory := .of_eq fun _ => rfl
  have hfailed : ∀ e : PoolError, Begins h (frontOf (abandoned e h).1) (abandoned e h).2 :=
    fun e => .without _ (idle_frontOf_error e) rfl hnothing
  unfold attach
  split
  · exact .without _ (idle_frontOf_error _) rfl hnothing
  dsimp only
  split
  · exact .without _ ⟨nofun, rfl⟩ rfl hnothing
  split
  · exact hfailed _
  split
  · exact hfailed _
  split
  · exact hfailed _
  split
  · exact hfailed _
  · exact .without _ ⟨nofun, rfl⟩ rfl hnothing

/-- The settings turn the hook on, and lead to a table that fits to them. -/
structure Finds (settings : Settings) (h : Host) (t : SlotTable) : Prop where
  valid : settings.Valid
  on : settings.clientauth.mode ≠ .off
  table_eq : t = ⟨t.segment, settings.clientauth.segment,
    ⟨settings.clientauth.slots, settings.clientauth.workers⟩⟩
  offers : h.memory.Offers settings.clientauth.segment
    ⟨settings.clientauth.slots, settings.clientauth.workers⟩ t.segment

/-- A start that finds a table comes to starting its pool. -/
theorem start_of_finds {t : SlotTable} (hfinds : Finds settings h t) :
    ∃ h₁ : Host, h₁.processes = h.processes ∧
      (∀ k : Nat, h₁.memory.header k = h.memory.header k) ∧
      start settings h =
        (.ok (startPool ⟨settings, settings⟩ t h₁).1, (startPool ⟨settings, settings⟩ t h₁).2) := by
  obtain ⟨⟨hslots, hmax⟩, ⟨hworkers, hle⟩, -⟩ := Settings.valid_iff.mp hfinds.valid
  have hlive : LiveSettings.start settings = .ok ⟨settings, settings⟩ :=
    LiveSettings.start_eq_ok_iff.mpr ⟨hfinds.valid, rfl⟩
  have hlayout : Layout.of? settings.clientauth.slots settings.clientauth.workers =
      .ok ⟨settings.clientauth.slots, settings.clientauth.workers⟩ :=
    Layout.of?_eq_ok_iff.mpr ⟨rfl, hworkers, hle, hmax⟩
  have hattach := SlotTable.attach_of_offers hfinds.offers
    ⟨settings.clientauth.slots, settings.clientauth.workers⟩
  rw [if_pos rfl, ← hfinds.table_eq] at hattach
  refine ⟨{ h with memory := h.memory }.say [], rfl, fun _ => rfl, ?_⟩
  unfold start
  rw [hlive]
  dsimp only
  rw [if_neg hfinds.on, hlayout]
  dsimp only
  rw [hattach]

end Begin

/-! ## Ending a service -/

section End

variable {s : Service} {h : Host}

/-- Without a pool the end of a service leaves the memory as it is. -/
theorem shutdown_of_idle (hidle : s.front.Idle) :
    (s.shutdown h).2.processes = h.processes ∧ (s.shutdown h).2.memory = h.memory := by
  have howns : s.ownsPool = false := hidle.ownsPool_eq
  unfold shutdown
  split
  · exact ⟨rfl, rfl⟩
  · rw [withoutPool, howns]
    exact ⟨rfl, rfl⟩

/-- The service that runs a pool leaves it without an owner. -/
theorem shutdown_of_runs {t : SlotTable} (hruns : s.front.Runs t) (howns : s.ownsPool = true)
    (hready : (h.memory.header t.segment).readiness = .ready)
    (hown : h.ownerOf t.segment = h.processes.self) : h.OwnedBy t 0 (s.shutdown h).2 := by
  have hstate : s.state ≠ .stopped := by
    rw [show s.state = .running from hruns.1]
    nofun
  rw [shutdown, if_neg hstate, withoutPool, howns, show s.table = some t from hruns.2]
  exact (Host.releasePool_of_own hready hown).say _

end End

end Service

end Admission
