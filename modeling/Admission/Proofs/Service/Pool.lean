import Admission.Proofs.Service.Ownership

set_option autoImplicit false

/-!
# One pool a segment

A process may start, attach, shut down and drop as many services as it likes.  The
table of a pool records only which process runs it, so that all services of a process
look alike there; still no two of them ever run the pool of one segment, and none gives
up the pool of another.
-/

namespace Admission

/-! ## Pools and their record -/

/-- The fronts and the record of owners agree: the process is recorded for a segment
exactly while one of its services runs the pool there, and never do two. -/
structure Pools (fs : String → Front) (h : Host) : Prop where
  alive : h.processes.isAlive h.processes.self = true
  front : ∀ name : String, (fs name).Idle ∨
    ∃ t : SlotTable, (fs name).Runs t ∧ (fs name).ownsPool = true ∧
      (h.memory.header t.segment).readiness = .ready
  recorded : ∀ n : Nat, h.ownerOf n = h.processes.self ↔
    ∃ (name : String) (t : SlotTable), (fs name).Runs t ∧ t.segment = n
  single : ∀ {a b : String} {t u : SlotTable}, (fs a).Runs t → (fs b).Runs u →
    t.segment = u.segment → a = b

/-- Two fronts have the same part in the running of pools. -/
structure Front.SameRole (f g : Front) : Prop where
  state_eq : f.state = g.state
  table_eq : f.table = g.table
  ownsPool_eq : f.ownsPool = g.ownsPool

theorem Processes.ne_zero_of_alive {ps : Processes} {pid : Pid} (h : ps.isAlive pid = true) :
    pid ≠ 0 := by
  rintro rfl
  cases h

namespace Front.SameRole

variable {f g : Front}

theorem runs_iff (h : f.SameRole g) (t : SlotTable) : f.Runs t ↔ g.Runs t := by
  rw [Runs, Runs, h.state_eq, h.table_eq]

theorem idle_iff (h : f.SameRole g) : f.Idle ↔ g.Idle :=
  ⟨fun hf => ⟨h.state_eq ▸ hf.state_ne, h.ownsPool_eq ▸ hf.ownsPool_eq⟩,
    fun hg => ⟨h.state_eq ▸ hg.state_ne, h.ownsPool_eq ▸ hg.ownsPool_eq⟩⟩

end Front.SameRole

namespace Pools

variable {fs gs : String → Front} {h h' : Host} {name : String} {f : Front} {t : SlotTable}

theorem ready_of_runs (hp : Pools fs h) (hruns : (fs name).Runs t) :
    (fs name).ownsPool = true ∧ (h.memory.header t.segment).readiness = .ready := by
  obtain hidle | ⟨u, hu, howns, hready⟩ := hp.front name
  · exact absurd hruns (hidle.not_runs t)
  · obtain rfl : u = t := Option.some.inj (hu.2.symm.trans hruns.2)
    exact ⟨howns, hready⟩

/-- The process is recorded only where a table is ready. -/
theorem ready_of_own (hp : Pools fs h) {n : Nat} (hown : h.ownerOf n = h.processes.self) :
    (h.memory.header n).readiness = .ready := by
  obtain ⟨name, t, hruns, rfl⟩ := (hp.recorded n).mp hown
  exact (hp.ready_of_runs hruns).2

/-- What keeps the record of the process and what is ready keeps the agreement. -/
theorem keep (hp : Pools fs h) (hself : h'.processes.self = h.processes.self)
    (halive : h'.processes.isAlive h'.processes.self = true)
    (howner : ∀ n : Nat, h'.ownerOf n = h.processes.self ↔ h.ownerOf n = h.processes.self)
    (hready : ∀ n : Nat, h.ownerOf n = h.processes.self →
      (h.memory.header n).readiness = .ready → (h'.memory.header n).readiness = .ready) :
    Pools fs h' where
  alive := halive
  front name := by
    refine (hp.front name).imp_right ?_
    rintro ⟨t, hruns, howns, hr⟩
    exact ⟨t, hruns, howns, hready _ ((hp.recorded _).mpr ⟨name, t, hruns, rfl⟩) hr⟩
  recorded n := by rw [hself, howner, hp.recorded]
  single := hp.single

theorem sameRole (hp : Pools fs h) (hsame : ∀ name : String, (gs name).SameRole (fs name)) :
    Pools gs h where
  alive := hp.alive
  front name := by
    simp only [(hsame name).idle_iff, (hsame name).runs_iff, (hsame name).ownsPool_eq]
    exact hp.front name
  recorded n := by
    simp only [(hsame _).runs_iff]
    exact hp.recorded n
  single ha hb := hp.single (((hsame _).runs_iff _).mp ha) (((hsame _).runs_iff _).mp hb)

/-- Where no pool is run, another front that runs none may stand. -/
theorem swap (hp : Pools fs h) (hold : (fs name).Idle) (hf : f.Idle) :
    Pools (Function.update fs name f) h := by
  have hruns : ∀ {other : String} {t : SlotTable},
      (Function.update fs name f other).Runs t ↔ (fs other).Runs t := by
    intro other t
    by_cases hother : other = name
    · rw [hother, Function.update_self]
      exact iff_of_false (hf.not_runs t) (hold.not_runs t)
    · rw [Function.update_of_ne hother]
  refine ⟨hp.alive, fun other => ?_, fun n => ?_,
    fun ha hb => hp.single (hruns.mp ha) (hruns.mp hb)⟩
  · by_cases hother : other = name
    · rw [hother, Function.update_self]
      exact .inl hf
    · rw [Function.update_of_ne hother]
      exact hp.front other
  · simp only [hruns]
    exact hp.recorded n

/-- To open a table takes no record of the process away. -/
theorem prepare {l : Layout} (hp : Pools fs h) (hprocesses : h'.processes = h.processes)
    (hprepared : h.memory.Prepared l h'.memory) : Pools fs h' := by
  refine hp.keep (by rw [hprocesses]) (by rw [hprocesses]; exact hp.alive) (fun n => ?_)
    fun n _ hr => ?_
  · constructor
    · intro hown
      obtain hsame | ⟨-, hfresh⟩ := hprepared n
      · rwa [Host.ownerOf, hsame] at hown
      · rw [Host.ownerOf, hfresh] at hown
        exact absurd hown.symm (Processes.ne_zero_of_alive hp.alive)
    · intro hown
      rw [Host.ownerOf, hprepared.header_eq (by rw [hp.ready_of_own hown]; decide)]
      exact hown
  · rw [hprepared.header_eq (by rw [hr]; decide)]
    exact hr

/-- A pool without a running owner that goes to nobody is not one of the process. -/
theorem giveUp (hp : Pools fs h) (hdead : h.processes.isAlive (h.ownerOf t.segment) = false)
    (hown : h.OwnedBy t 0 h') : Pools fs h' := by
  have hne : h.ownerOf t.segment ≠ h.processes.self := by
    intro heq
    rw [heq, hp.alive] at hdead
    cases hdead
  refine hp.keep (by rw [hown.processes_eq]) (by rw [hown.processes_eq]; exact hp.alive)
    (fun n => ?_) fun n _ hr => (hown.readiness_eq n).trans hr
  rw [hown.ownerOf_eq]
  split
  · next hn =>
    subst hn
    exact iff_of_false (Processes.ne_zero_of_alive hp.alive).symm hne
  · exact Iff.rfl

/-- The service of a name begins to run the pool of a table without a running owner. -/
theorem run (hp : Pools fs h) (hold : (fs name).Idle) (hruns : f.Runs t)
    (howns : f.ownsPool = true) (hready : (h.memory.header t.segment).readiness = .ready)
    (hdead : h.processes.isAlive (h.ownerOf t.segment) = false)
    (hown : h.OwnedBy t h.processes.self h') : Pools (Function.update fs name f) h' := by
  -- So far nobody ran it.
  have hfree : ∀ {other : String} {u : SlotTable}, (fs other).Runs u → u.segment ≠ t.segment := by
    intro other u hu heq
    have hself := (hp.recorded _).mpr ⟨other, u, hu, heq⟩
    rw [hself, hp.alive] at hdead
    cases hdead
  have hcases : ∀ {other : String} {u : SlotTable}, (Function.update fs name f other).Runs u →
      other = name ∧ u = t ∨ other ≠ name ∧ (fs other).Runs u := by
    intro other u hu
    by_cases hother : other = name
    · rw [hother, Function.update_self] at hu
      exact .inl ⟨hother, Option.some.inj (hu.2.symm.trans hruns.2)⟩
    · rw [Function.update_of_ne hother] at hu
      exact .inr ⟨hother, hu⟩
  refine ⟨by rw [hown.processes_eq]; exact hp.alive, fun other => ?front, fun n => ?recorded,
    fun ha hb heq => ?single⟩
  case front =>
    by_cases hother : other = name
    · rw [hother, Function.update_self]
      exact .inr ⟨t, hruns, howns, (hown.readiness_eq _).trans hready⟩
    · rw [Function.update_of_ne hother]
      refine (hp.front other).imp_right ?_
      rintro ⟨u, hu, hou, hr⟩
      exact ⟨u, hu, hou, (hown.readiness_eq _).trans hr⟩
  case recorded =>
    rw [hown.processes_eq]
    constructor
    · intro hn
      by_cases heq : n = t.segment
      · exact ⟨name, t, by rw [Function.update_self]; exact hruns, heq.symm⟩
      · rw [hown.ownerOf_of_ne heq] at hn
        obtain ⟨other, u, hu, rfl⟩ := (hp.recorded n).mp hn
        have hother : other ≠ name := fun hother => hold.not_runs u (hother ▸ hu)
        exact ⟨other, u, by rw [Function.update_of_ne hother]; exact hu, rfl⟩
    · rintro ⟨other, u, hu, rfl⟩
      obtain ⟨-, rfl⟩ | ⟨-, hu⟩ := hcases hu
      · exact hown.ownerOf_self
      · rw [hown.ownerOf_of_ne (hfree hu)]
        exact (hp.recorded _).mpr ⟨other, u, hu, rfl⟩
  case single =>
    obtain ⟨rfl, rfl⟩ | ⟨-, ha⟩ := hcases ha
    · obtain ⟨rfl, -⟩ | ⟨-, hb⟩ := hcases hb
      · rfl
      · exact absurd heq.symm (hfree hb)
    · obtain ⟨-, rfl⟩ | ⟨-, hb⟩ := hcases hb
      · exact absurd heq (hfree ha)
      · exact hp.single ha hb heq

/-- The service of a name stops to run the pool of a table. -/
theorem stop (hp : Pools fs h) (hruns : (fs name).Runs t) (hf : f.Idle) (hown : h.OwnedBy t 0 h') :
    Pools (Function.update fs name f) h' := by
  have hiff : ∀ {other : String} {u : SlotTable}, (Function.update fs name f other).Runs u ↔
      other ≠ name ∧ (fs other).Runs u := by
    intro other u
    by_cases hother : other = name
    · rw [hother, Function.update_self]
      exact iff_of_false (hf.not_runs u) fun h => h.1 rfl
    · rw [Function.update_of_ne hother]
      exact (and_iff_right hother).symm
  refine ⟨by rw [hown.processes_eq]; exact hp.alive, fun other => ?front, fun n => ?recorded,
    fun ha hb => hp.single (hiff.mp ha).2 (hiff.mp hb).2⟩
  case front =>
    by_cases hother : other = name
    · rw [hother, Function.update_self]
      exact .inl hf
    · rw [Function.update_of_ne hother]
      refine (hp.front other).imp_right ?_
      rintro ⟨u, hu, hou, hr⟩
      exact ⟨u, hu, hou, (hown.readiness_eq _).trans hr⟩
  case recorded =>
    simp only [hiff]
    rw [hown.processes_eq, hown.ownerOf_eq]
    split
    · next hn =>
      refine iff_of_false (Processes.ne_zero_of_alive hp.alive).symm ?_
      rintro ⟨other, u, ⟨hother, hu⟩, heq⟩
      exact hother (hp.single hu hruns (heq.trans hn))
    · next hn =>
      rw [hp.recorded]
      constructor
      · rintro ⟨other, u, hu, rfl⟩
        refine ⟨other, u, ⟨?_, hu⟩, rfl⟩
        rintro rfl
        exact hn (congrArg SlotTable.segment (Option.some.inj (hu.2.symm.trans hruns.2)))
      · rintro ⟨other, u, ⟨-, hu⟩, heq⟩
        exact ⟨other, u, hu, heq⟩

/-- A service begins under a name where no pool is run. -/
theorem begins (hp : Pools fs h) (hold : (fs name).Idle) (hbegins : Service.Begins h f h') :
    Pools (Function.update fs name f) h' := by
  cases hbegins with
  | without l idle processes_eq prepared => exact (hp.prepare processes_eq prepared).swap hold idle
  | gaveUp l h₁ t idle processes_eq prepared dead owned =>
    have hp₁ := hp.prepare processes_eq prepared
    rw [← processes_eq] at dead
    exact (hp₁.giveUp dead owned).swap hold idle
  | runs l h₁ t runs owns processes_eq prepared ready dead owned =>
    have hp₁ := hp.prepare processes_eq prepared
    rw [← processes_eq] at dead owned
    exact hp₁.run hold runs owns ready dead owned

/-- The service of a name ends, and one that runs no pool stands there afterwards. -/
theorem ends {s : Service} (hp : Pools fs h) (hs : s.front = fs name) (hf : f.Idle) :
    Pools (Function.update fs name f) (s.shutdown h).2 := by
  obtain hidle | ⟨t, hruns, howns, hready⟩ := hp.front name
  · obtain ⟨hprocesses, hmemory⟩ := Service.shutdown_of_idle (s := s) (h := h) (hs ▸ hidle)
    have hp' : Pools fs (s.shutdown h).2 :=
      hp.prepare (l := ⟨0, 0⟩) hprocesses (.of_eq fun k => by rw [hmemory])
    exact hp'.swap hidle hf
  · have hself := (hp.recorded _).mpr ⟨name, t, hruns, rfl⟩
    rw [← hs] at howns
    exact hp.stop hruns hf (Service.shutdown_of_runs (hs ▸ hruns) howns hready hself)

end Pools

/-! ## Calls -/

namespace Site

/-- What a process may do about a service, by the name of the service. -/
inductive Call where
  | start (name : String) (settings : Settings)
  | attach (name : String) (settings : Settings)
  | shutdown (name : String)
  | drop (name : String)

/-- The name of the service that a call is about. -/
def Call.name : Call → String
  | .start name _ | .attach name _ | .shutdown name | .drop name => name

/-- The site after a call. -/
def after (s : Site) : Call → Site
  | .start name settings => (s.launch name (Service.start settings)).2
  | .attach name settings => (s.launch name (Service.attach settings)).2
  | .shutdown name => s.shutdown name
  | .drop name => s.dropService name

/-- The service of a name runs the pool of this table. -/
def RunsPool (s : Site) (name : String) (t : SlotTable) : Prop :=
  (s.service name).state = .running ∧ (s.service name).table = some t

variable {s : Site} {name : String}

theorem idle_default : (default : Service).front.Idle :=
  ⟨nofun, rfl⟩

/-- A service that is dropped is shut down, and then nobody has its name. -/
theorem dropService_spec (s : Site) (name : String) :
    (s.dropService name).fronts = Function.update s.fronts name (default : Service).front ∧
      (s.dropService name).host.processes = ((s.service name).shutdown s.host).2.processes ∧
      (s.dropService name).host.memory = ((s.service name).shutdown s.host).2.memory := by
  unfold dropService
  cases hservice : s.services.get? name with
  | none =>
    have hdefault : s.service name = default := by rw [service, hservice]; rfl
    have hfront : (default : Service).front = s.fronts name := by rw [fronts, hdefault]
    rw [hdefault, hfront, Function.update_eq_self]
    exact ⟨rfl, rfl, rfl⟩
  | some found =>
    have hfound : s.service name = found := by rw [service, hservice]; rfl
    rw [hfound]
    refine ⟨?_, rfl, rfl⟩
    funext other
    by_cases hother : other = name
    · simp [fronts, service, hother]
    · simp [fronts, service, hother]

/-- A launch drops what has the name and begins a service in its place. -/
theorem launch_spec (s : Site) (name : String) (make : Host → Except PoolError Service × Host) :
    (s.launch name make).2.fronts =
        Function.update s.fronts name (Service.frontOf (make (s.dropService name).host).1) ∧
      (s.launch name make).2.host = (make (s.dropService name).host).2 := by
  have hdrop := (s.dropService_spec name).1
  unfold launch
  dsimp only
  generalize make (s.dropService name).host = made
  obtain ⟨e | service, h'⟩ := made
  · exact ⟨hdrop, rfl⟩
  · refine ⟨(fronts_setService _ name service).trans ?_, rfl⟩
    rw [show Site.fronts { s.dropService name with host := h' } = (s.dropService name).fronts from
      rfl, hdrop, Function.update_idem]
    rfl

/-- A call changes no front but that of its own service. -/
theorem fronts_after (s : Site) (c : Call) :
    ∃ f : Front, (s.after c).fronts = Function.update s.fronts c.name f := by
  cases c with
  | start name settings => exact ⟨_, (s.launch_spec name _).1⟩
  | attach name settings => exact ⟨_, (s.launch_spec name _).1⟩
  | shutdown name => exact ⟨_, s.fronts_shutdown name⟩
  | drop name => exact ⟨_, (s.dropService_spec name).1⟩

theorem pools_dropService (hp : Pools s.fronts s.host) (name : String) :
    Pools (s.dropService name).fronts (s.dropService name).host := by
  obtain ⟨hfronts, hprocesses, hmemory⟩ := s.dropService_spec name
  rw [hfronts]
  exact (hp.ends (s := s.service name) rfl idle_default).prepare (l := ⟨0, 0⟩) hprocesses
    (.of_eq fun k => by rw [hmemory])

theorem pools_launch (hp : Pools s.fronts s.host) {make : Host → Except PoolError Service × Host}
    (hmake : ∀ h : Host, Service.Begins h (Service.frontOf (make h).1) (make h).2) :
    Pools (s.launch name make).2.fronts (s.launch name make).2.host := by
  have hdrop := s.pools_dropService hp name
  obtain ⟨hfronts, hhost⟩ := s.launch_spec name make
  rw [hfronts, hhost]
  rw [(s.dropService_spec name).1] at hdrop
  have hidle : (Function.update s.fronts name (default : Service).front name).Idle := by
    rw [Function.update_self]
    exact idle_default
  have hbegun := hdrop.begins hidle (hmake _)
  rwa [Function.update_idem] at hbegun

/-- Every call keeps the agreement of pools and owners. -/
theorem pools_after (hp : Pools s.fronts s.host) (c : Call) :
    Pools (s.after c).fronts (s.after c).host := by
  cases c with
  | start name settings => exact pools_launch hp (Service.begins_start settings)
  | attach name settings => exact pools_launch hp (Service.begins_attach settings)
  | drop name => exact pools_dropService hp name
  | shutdown name =>
    rw [after, fronts_shutdown]
    refine hp.ends (s := s.service name) rfl ?_
    split
    · next hstopped =>
      obtain hidle | ⟨t, hruns, -⟩ := hp.front name
      · exact hidle
      · rw [hruns.1] at hstopped
        cases hstopped
    · exact ⟨fun hruns => (by cases hruns), rfl⟩

/-- The end of a service changes no header but that of the pool it runs, and takes no
table away. -/
theorem dropService_memory (hp : Pools s.fronts s.host) (name : String) :
    (∀ n : Nat, (∀ t : SlotTable, s.RunsPool name t → t.segment ≠ n) →
      (s.dropService name).host.memory.header n = s.host.memory.header n) ∧
    ∀ (segment : String) (l : Layout) (n : Nat), s.host.memory.Offers segment l n →
      (s.dropService name).host.memory.Offers segment l n := by
  rw [(s.dropService_spec name).2.2]
  obtain hidle | ⟨t, hruns, howns, hready⟩ := hp.front name
  · rw [(Service.shutdown_of_idle (s := s.service name) (h := s.host) hidle).2]
    exact ⟨fun _ _ => rfl, fun _ _ _ hoffers => hoffers⟩
  · have hown := Service.shutdown_of_runs (s := s.service name) hruns howns hready
      ((hp.recorded _).mpr ⟨name, t, hruns, rfl⟩)
    refine ⟨fun n hn => ?_, fun _ _ _ hoffers => hown.offers hoffers⟩
    rw [hown.header_eq, if_neg (hn t hruns).symm]

theorem dropService_processes (hp : Pools s.fronts s.host) (name : String) :
    (s.dropService name).host.processes = s.host.processes := by
  rw [(s.dropService_spec name).2.1]
  obtain hidle | ⟨t, hruns, howns, hready⟩ := hp.front name
  · exact (Service.shutdown_of_idle (s := s.service name) hidle).1
  · exact (Service.shutdown_of_runs (s := s.service name) hruns howns hready
      ((hp.recorded _).mpr ⟨name, t, hruns, rfl⟩)).processes_eq

/-! ## The record of other processes -/

section Foreign

variable {n : Nat}

/-- Where another process is recorded, none of the services runs the pool. -/
theorem ne_of_foreign (hp : Pools s.fronts s.host)
    (hforeign : s.host.ownerOf n ≠ s.host.processes.self) {t : SlotTable}
    (hruns : s.RunsPool name t) : t.segment ≠ n :=
  fun heq => hforeign ((hp.recorded n).mpr ⟨name, t, hruns, heq⟩)

theorem ownerOf_launch (hp : Pools s.fronts s.host)
    {make : Host → Except PoolError Service × Host}
    (hmake : ∀ h : Host, Service.Begins h (Service.frontOf (make h).1) (make h).2)
    (halive : s.host.processes.isAlive (s.host.ownerOf n) = true)
    (hforeign : s.host.ownerOf n ≠ s.host.processes.self)
    (hwritten : (s.host.memory.header n).readiness ≠ .untouched) :
    (s.launch name make).2.host.ownerOf n = s.host.ownerOf n := by
  have hheader := (s.dropService_memory hp name).1 n fun t => ne_of_foreign hp hforeign
  have hdrop : (s.dropService name).host.ownerOf n = s.host.ownerOf n := by
    rw [Host.ownerOf, hheader]
    rfl
  rw [(s.launch_spec name make).2, (hmake _).ownerOf_eq ?_ (hheader ▸ hwritten), hdrop]
  rw [dropService_processes hp, hdrop]
  exact halive

/-- No call changes what a table records of another process that runs. -/
theorem ownerOf_after (hp : Pools s.fronts s.host) (c : Call)
    (halive : s.host.processes.isAlive (s.host.ownerOf n) = true)
    (hforeign : s.host.ownerOf n ≠ s.host.processes.self)
    (hwritten : (s.host.memory.header n).readiness ≠ .untouched) :
    (s.after c).host.ownerOf n = s.host.ownerOf n := by
  have hdrop : ∀ name : String, ((s.service name).shutdown s.host).2.ownerOf n =
      s.host.ownerOf n := by
    intro name
    have hheader := (s.dropService_memory hp name).1 n fun t => ne_of_foreign hp hforeign
    rw [(s.dropService_spec name).2.2] at hheader
    rw [Host.ownerOf, hheader]
    rfl
  cases c with
  | start name settings =>
    exact ownerOf_launch hp (Service.begins_start settings) halive hforeign hwritten
  | attach name settings =>
    exact ownerOf_launch hp (Service.begins_attach settings) halive hforeign hwritten
  | shutdown name => exact hdrop name
  | drop name =>
    rw [after, Host.ownerOf, (s.dropService_spec name).2.2]
    exact hdrop name

end Foreign

/-! ## Starts on a table that is there -/

section Start

variable {settings : Settings} {t : SlotTable}

/-- A start that finds a table comes to starting its pool, with the headers as they are. -/
theorem after_start_of_finds (hp : Pools s.fronts s.host)
    (hfinds : Service.Finds settings s.host t)
    (hfree : ∀ u : SlotTable, s.RunsPool name u → u.segment ≠ t.segment) :
    ∃ h₁ : Host, h₁.processes = s.host.processes ∧
      h₁.memory.header t.segment = s.host.memory.header t.segment ∧
      ((s.after (.start name settings)).service name).front =
        (Service.startPool ⟨settings, settings⟩ t h₁).1.front ∧
      (s.after (.start name settings)).host = (Service.startPool ⟨settings, settings⟩ t h₁).2 := by
  obtain ⟨hheader, hoffers⟩ := s.dropService_memory hp name
  have hfound : Service.Finds settings (s.dropService name).host t :=
    ⟨hfinds.valid, hfinds.on, hfinds.table_eq, hoffers _ _ _ hfinds.offers⟩
  obtain ⟨h₁, hprocesses, hsame, hstart⟩ := Service.start_of_finds hfound
  obtain ⟨hfronts, hhost⟩ := s.launch_spec name (Service.start settings)
  rw [hstart] at hfronts hhost
  refine ⟨h₁, hprocesses.trans (dropService_processes hp name),
    (hsame _).trans (hheader _ hfree), ?_, hhost⟩
  have hfront := congrFun hfronts name
  rw [Function.update_self] at hfront
  exact hfront

end Start

/-! ## What a process comes to -/

/-- What else may happen meanwhile: connections are served, settings are reloaded, and
other processes begin, end, and own pools or give them up, but never that of this
process. -/
structure Abides (s s' : Site) : Prop where
  self_eq : s'.host.processes.self = s.host.processes.self
  alive : s'.host.processes.isAlive s'.host.processes.self = true
  owner_iff : ∀ n : Nat, s'.host.ownerOf n = s.host.processes.self ↔
    s.host.ownerOf n = s.host.processes.self
  ready : ∀ n : Nat, s.host.ownerOf n = s.host.processes.self →
    (s.host.memory.header n).readiness = .ready → (s'.host.memory.header n).readiness = .ready
  role : ∀ name : String, (s'.fronts name).SameRole (s.fronts name)

/-- The sites that a process comes to which begins without services and without a pool,
whoever else owns one, and then makes calls. -/
inductive Managed : Site → Prop
  | begin {s : Site} (services : s.services = .empty)
      (alive : s.host.processes.isAlive s.host.processes.self = true)
      (unowned : ∀ n : Nat, s.host.ownerOf n ≠ s.host.processes.self) : Managed s
  | call {s : Site} (run : Managed s) (c : Call) : Managed (s.after c)
  | elsewhere {s s' : Site} (run : Managed s) (h : s.Abides s') : Managed s'

theorem Managed.pools {s : Site} (run : s.Managed) : Pools s.fronts s.host := by
  induction run with
  | @begin s services alive unowned =>
    have hidle : ∀ name : String, (s.fronts name).Idle := by
      intro name
      rw [fronts, service, services]
      exact idle_default
    have hnone : ∀ n : Nat,
        ¬ ∃ (name : String) (t : SlotTable), s.RunsPool name t ∧ t.segment = n := by
      rintro n ⟨name, t, hruns, -⟩
      exact (hidle name).not_runs t hruns
    exact
      { alive
        front := fun name => .inl (hidle name)
        recorded := fun n => iff_of_false (unowned n) (hnone n)
        single := fun ha => absurd ha ((hidle _).not_runs _) }
  | call _ c ih => exact pools_after ih c
  | elsewhere _ h ih => exact (ih.keep h.self_eq h.alive h.owner_iff h.ready).sameRole h.role

/-- One pool a segment: what holds of a process at every moment between its calls. -/
structure OnePool (s : Site) : Prop where
  /-- No two services run the pool of one segment. -/
  single : ∀ {a b : String} {t u : SlotTable}, s.RunsPool a t → s.RunsPool b u →
    t.segment = u.segment → a = b
  /-- The process is recorded as the owner exactly while one does. -/
  recorded : ∀ n : Nat, s.host.ownerOf n = s.host.processes.self ↔
    ∃ (name : String) (t : SlotTable), s.RunsPool name t ∧ t.segment = n
  /-- Another owner that runs stays recorded, whatever call is made. -/
  foreign : ∀ (n : Nat) (c : Call), s.host.processes.isAlive (s.host.ownerOf n) = true →
    s.host.ownerOf n ≠ s.host.processes.self →
    (s.host.memory.header n).readiness ≠ .untouched →
    (s.after c).host.ownerOf n = s.host.ownerOf n
  /-- A start on a table whose pool is run, by another process or another service, only
  attaches to it. -/
  attaches : ∀ (name : String) (settings : Settings) (t : SlotTable),
    Service.Finds settings s.host t →
    s.host.processes.isAlive (s.host.ownerOf t.segment) = true →
    (∀ u : SlotTable, s.RunsPool name u → u.segment ≠ t.segment) →
    ((s.after (.start name settings)).service name).state = .attached ∧
      ((s.after (.start name settings)).service name).table = some t ∧
      (s.after (.start name settings)).host.ownerOf t.segment = s.host.ownerOf t.segment
  /-- A start on a table without a running owner takes the pool over, if the host allows
  as many workers. -/
  takesOver : ∀ (name : String) (settings : Settings) (t : SlotTable),
    Service.Finds settings s.host t →
    s.host.processes.isAlive (s.host.ownerOf t.segment) = false →
    settings.clientauth.workers ≤ settings.host.maxWorkerProcesses →
    (s.after (.start name settings)).RunsPool name t ∧
      (s.after (.start name settings)).host.ownerOf t.segment = s.host.processes.self
  /-- No call on one service takes a pool from another, neither one that starts it without
  enough workers or fails to, nor one that ends it, for the first time or again. -/
  keeps : ∀ (c : Call) (other : String) (t : SlotTable), s.RunsPool other t → c.name ≠ other →
    (s.after c).RunsPool other t ∧
      (s.after c).host.ownerOf t.segment = (s.after c).host.processes.self

/-- Whatever calls a process makes on its services, it runs one pool a segment. -/
theorem Managed.onePool {s : Site} (run : s.Managed) : OnePool s := by
  have hp := run.pools
  refine
    { single := hp.single
      recorded := hp.recorded
      foreign := fun n c => ownerOf_after hp c
      attaches := fun name settings t hfinds halive hfree => ?attaches
      takesOver := fun name settings t hfinds hdead henough => ?takesOver
      keeps := fun c other t hruns hother => ?keeps }
  case attaches =>
    obtain ⟨h₁, hprocesses, hheader, hfront, hhost⟩ := after_start_of_finds hp hfinds hfree
    have howner : h₁.ownerOf t.segment = s.host.ownerOf t.segment :=
      congrArg Header.poolOwner hheader
    have hready : (h₁.memory.header t.segment).readiness = .ready := by
      rw [hheader]
      exact hfinds.offers.ready
    obtain ⟨hservice, hown⟩ := Service.startPool_of_alive ⟨settings, settings⟩ hready
      (by rw [hprocesses, howner]; exact halive)
    rw [hservice] at hfront
    exact ⟨congrArg Front.state hfront, congrArg Front.table hfront,
      by rw [hhost, hown.ownerOf_self, howner]⟩
  case takesOver =>
    have hforeign : s.host.ownerOf t.segment ≠ s.host.processes.self := by
      intro heq
      rw [heq, hp.alive] at hdead
      cases hdead
    obtain ⟨h₁, hprocesses, hheader, hfront, hhost⟩ := after_start_of_finds hp hfinds
      fun u hruns => ne_of_foreign hp hforeign hruns
    have howner : h₁.ownerOf t.segment = s.host.ownerOf t.segment :=
      congrArg Header.poolOwner hheader
    have hready : (h₁.memory.header t.segment).readiness = .ready := by
      rw [hheader]
      exact hfinds.offers.ready
    obtain ⟨hruns, -, hown⟩ := Service.startPool_of_enough ⟨settings, settings⟩ hready
      (by rw [hprocesses, howner]; exact hdead) henough
    rw [← hfront] at hruns
    exact ⟨hruns, by rw [hhost, hown.ownerOf_self, hprocesses]⟩
  case keeps =>
    have hafter := pools_after hp c
    obtain ⟨f, hfronts⟩ := s.fronts_after c
    have hstill : (s.after c).RunsPool other t := by
      show ((s.after c).fronts other).Runs t
      rw [hfronts, Function.update_of_ne hother.symm]
      exact hruns
    exact ⟨hstill, (hafter.recorded _).mpr ⟨other, t, hstill, rfl⟩⟩

/-- Settings that turn the hook on, over a table that other processes find. -/
def pooled : Settings :=
  { clientauth := { mode := .on, slots := 8, segment := "/pool" } }

/-- The site of a process that started two services with these settings. -/
def twice : Site :=
  (Site.after { host := { processes := ⟨7, [7]⟩ } } (.start "first" pooled)).after
    (.start "second" pooled)

/-- The second service only attaches, and its end leaves the pool of the first. -/
theorem onePool_twice :
    twice.Managed ∧ (twice.service "second").state = .attached ∧
      (twice.after (.drop "second")).RunsPool "first" ⟨0, "/pool", ⟨8, 2⟩⟩ ∧
      (twice.after (.drop "second")).host.ownerOf 0 = 7 := by
  have run : twice.Managed := by
    refine .call (.call (.begin rfl (by decide) fun n => ?_) _) _
    rw [Host.ownerOf, Memory.header_of_le (Nat.zero_le n)]
    decide
  have hruns : twice.RunsPool "first" ⟨0, "/pool", ⟨8, 2⟩⟩ := by
    unfold RunsPool
    decide +kernel
  obtain ⟨hstill, howner⟩ := run.onePool.keeps (.drop "second") _ _ hruns (by decide)
  exact ⟨run, by decide +kernel, hstill, howner.trans (by decide +kernel)⟩

end Site

end Admission
