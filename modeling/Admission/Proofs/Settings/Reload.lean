import Admission.Settings.Reload
import Mathlib.Data.List.Basic
import Mathlib.Data.List.Induction
import Mathlib.Data.List.Nodup

set_option autoImplicit false

/-!
# The settings in force

Whatever is submitted to a running host, in whatever order, the settings in force
are those of the last submission that was valid, except for the six that only a
restart can change; and they are always valid themselves.
-/

namespace Admission

/-! ## Validity -/

theorem checkRange_eq_ok_iff {setting : String} {value min max : Nat} :
    checkRange setting value min max = .ok () ↔ min ≤ value ∧ value ≤ max := by
  unfold checkRange
  split
  · next h => simp only [reduceCtorEq, false_iff]; omega
  · next h => simp only [true_iff]; omega

theorem checkPresent_eq_ok_iff {setting value : String} :
    checkPresent setting value = .ok () ↔ value ≠ "" := by
  unfold checkPresent
  split
  · next h => simp [h]
  · next h => simp [h]

/-- Two checks pass one after the other exactly if both pass. -/
theorem andThen_eq_ok_iff {check next : Except ConfigError Unit} :
    (check >>= fun _ => next) = .ok () ↔ check = .ok () ∧ next = .ok () := by
  cases check with
  | error e => simp [bind, Except.bind]
  | ok _ => simp [bind, Except.bind]

namespace Settings

/-- The settings pass their check. -/
def Valid (s : Settings) : Prop :=
  s.validate = .ok ()

instance (s : Settings) : Decidable s.Valid :=
  match h : s.validate with
  | .ok () => .isTrue h
  | .error e => .isFalse fun hvalid => by cases h.symm.trans hvalid

/-- What the check asks for, one by one. -/
theorem valid_iff {s : Settings} :
    s.Valid ↔
      (1 ≤ s.clientauth.slots ∧ s.clientauth.slots ≤ maxSlots) ∧
      (1 ≤ s.clientauth.workers ∧ s.clientauth.workers ≤ s.clientauth.slots) ∧
      (1 ≤ s.clientauth.livenessInterval.milliseconds64.toNat ∧
        s.clientauth.livenessInterval.milliseconds64.toNat ≤ 3600000) ∧
      (∀ timeout ∈ s.clientauth.requestTimeout, 1 ≤ timeout.milliseconds64.toNat ∧
        timeout.milliseconds64.toNat ≤ UInt32.size - 1) ∧
      s.clientauth.database ≠ "" := by
  unfold Valid validate
  cases htimeout : s.clientauth.requestTimeout with
  | none => simp [htimeout, andThen_eq_ok_iff, checkRange_eq_ok_iff, checkPresent_eq_ok_iff]
  | some timeout =>
    simp [htimeout, andThen_eq_ok_iff, checkRange_eq_ok_iff, checkPresent_eq_ok_iff]

/-- The restart-only settings of valid settings fit to every valid submission. -/
theorem Valid.pinned {startup next : Settings} (h : startup.Valid) (hnext : next.Valid) :
    (startup.pinned next).Valid := by
  obtain ⟨hslots, hworkers, -, -, hdatabase⟩ := valid_iff.mp h
  obtain ⟨-, -, hinterval, htimeout, -⟩ := valid_iff.mp hnext
  exact valid_iff.mpr ⟨hslots, hworkers, hinterval, htimeout, hdatabase⟩

end Settings

/-! ## What a reload holds back -/

namespace RestartOnly

/-- Two settings agree in this one. -/
def Same (a b : Settings) : RestartOnly → Prop
  | .database => a.clientauth.database = b.clientauth.database
  | .workers => a.clientauth.workers = b.clientauth.workers
  | .slots => a.clientauth.slots = b.clientauth.slots
  | .segment => a.clientauth.segment = b.clientauth.segment
  | .mode => a.clientauth.mode = b.clientauth.mode
  | .maxWorkerProcesses => a.host.maxWorkerProcesses = b.host.maxWorkerProcesses

theorem name_injective : Function.Injective name := by
  intro f g h
  cases f <;> cases g <;> simp [name] at h ⊢

theorem mem_all (f : RestartOnly) : f ∈ all := by
  cases f <;> decide

/-- A setting is held exactly if the submission does not get it. -/
theorem isHeld_iff {startup next : Settings} {f : RestartOnly} :
    isHeld startup next f = true ↔ ¬ f.Same next (startup.pinned next) := by
  cases f with
  | mode =>
    simp only [isHeld, Same, Settings.pinned, decide_eq_true_eq]
    split
    · next hoff => simp [hoff]
    · next hon => simp [hon]
  | database => simp [isHeld, Same, Settings.pinned]
  | workers => simp [isHeld, Same, Settings.pinned]
  | slots => simp [isHeld, Same, Settings.pinned]
  | segment => simp [isHeld, Same, Settings.pinned]
  | maxWorkerProcesses => simp [isHeld, Same, Settings.pinned]

end RestartOnly

namespace Settings

variable {startup next : Settings}

theorem mem_heldBack_iff {f : RestartOnly} :
    f ∈ startup.heldBack next ↔ ¬ f.Same next (startup.pinned next) := by
  simp [heldBack, RestartOnly.mem_all, RestartOnly.isHeld_iff]

theorem nodup_heldBack : (startup.heldBack next).Nodup :=
  List.Nodup.filter _ (by decide)

/-- A submission that agrees with its pinned form in the restart-only settings is that form. -/
theorem pinned_eq_self_iff :
    startup.pinned next = next ↔ ∀ f : RestartOnly, f.Same next (startup.pinned next) := by
  constructor
  · intro h f
    rw [h]
    cases f <;> rfl
  · intro h
    have hdatabase := h .database
    have hworkers := h .workers
    have hslots := h .slots
    have hsegment := h .segment
    have hmode := h .mode
    have hmax := h .maxWorkerProcesses
    simp only [RestartOnly.Same, pinned] at hdatabase hworkers hslots hsegment hmode hmax
    have hhost : next.host = startup.host := congrArg HostSettings.mk hmax
    simp only [pinned, ← hdatabase, ← hworkers, ← hslots, ← hsegment, ← hmode, ← hhost]

/-- Nothing is held back exactly if all of the submission is taken. -/
theorem heldBack_eq_nil_iff : startup.heldBack next = [] ↔ startup.pinned next = next := by
  rw [pinned_eq_self_iff, List.eq_nil_iff_forall_not_mem]
  exact forall_congr' fun f => by rw [mem_heldBack_iff, not_not]

end Settings

/-! ## Submissions -/

namespace LiveSettings

/-- The settings after a submission, which may be refused. -/
def submit (live : LiveSettings) (next : Settings) : LiveSettings :=
  match live.reload next with
  | .ok (live, _) => live
  | .error _ => live

/-- The settings after these submissions, the first one first. -/
def submitAll (live : LiveSettings) (submissions : List Settings) : LiveSettings :=
  submissions.foldl submit live

/-- The last of these submissions that is valid. -/
def lastValid? (submissions : List Settings) : Option Settings :=
  (submissions.filter fun s => s.Valid).getLast?

variable {live : LiveSettings} {next : Settings}

/-- A host is started exactly with valid settings, and with what it was given. -/
theorem start_eq_ok_iff {startup : Settings} :
    start startup = .ok live ↔ startup.Valid ∧ live = ⟨startup, startup⟩ := by
  unfold start Settings.Valid
  cases startup.validate with
  | error e => simp [bind, Except.bind]
  | ok _ => simp [bind, Except.bind, pure, Except.pure, eq_comm]

theorem reload_of_valid (h : next.Valid) :
    live.reload next =
      .ok ({ live with current := live.startup.pinned next }, live.startup.heldBack next) := by
  rw [reload, show next.validate = .ok () from h]
  rfl

theorem reload_of_not_valid (live : LiveSettings) (h : ¬ next.Valid) :
    ∃ e : ConfigError, live.reload next = .error e := by
  cases hvalidate : next.validate with
  | ok _ => exact absurd hvalidate h
  | error e => exact ⟨e, by rw [reload, hvalidate]; rfl⟩

theorem submit_of_valid (h : next.Valid) :
    live.submit next = { live with current := live.startup.pinned next } := by
  rw [submit, reload_of_valid h]

theorem submit_of_not_valid (h : ¬ next.Valid) : live.submit next = live := by
  obtain ⟨e, he⟩ := reload_of_not_valid live h
  rw [submit, he]

theorem lastValid?_concat (submissions : List Settings) (next : Settings) :
    lastValid? (submissions ++ [next]) =
      if next.Valid then some next else lastValid? submissions := by
  rw [lastValid?, List.filter_append]
  split
  · next h => simp [h]
  · next h => simp [h, lastValid?]

/-- After any submissions the last valid one is in force, as far as it needs no restart. -/
theorem submitAll_eq (startup : Settings) (submissions : List Settings) :
    submitAll ⟨startup, startup⟩ submissions =
      ⟨startup, (lastValid? submissions).elim startup startup.pinned⟩ := by
  induction submissions using List.reverseRecOn with
  | nil => rfl
  | append_singleton earlier next ih =>
    have hstep : submitAll ⟨startup, startup⟩ (earlier ++ [next]) =
        (submitAll ⟨startup, startup⟩ earlier).submit next := List.foldl_append
    rw [hstep, ih, lastValid?_concat]
    split
    · next h => rw [submit_of_valid h]; rfl
    · next h => rw [submit_of_not_valid h]

theorem valid_of_lastValid? {submissions : List Settings} {last : Settings}
    (h : lastValid? submissions = some last) : last.Valid := by
  have hmem := List.mem_of_getLast? h
  simpa using (List.mem_filter.mp hmem).2

/-- What holds of the settings of a host after these submissions. -/
structure Follows (startup : Settings) (submissions : List Settings) (live : LiveSettings) :
    Prop where
  startup_eq : live.startup = startup
  /-- Without a valid submission the startup settings are in force, and else the last
  valid one with what needs a restart taken from the startup settings. -/
  current_eq : live.current =
    match lastValid? submissions with
    | none => startup
    | some last =>
      { last with
        clientauth :=
          { last.clientauth with
            database := startup.clientauth.database
            workers := startup.clientauth.workers
            slots := startup.clientauth.slots
            segment := startup.clientauth.segment
            mode := if startup.clientauth.mode = .off then .off else last.clientauth.mode }
        host := { last.host with maxWorkerProcesses := startup.host.maxWorkerProcesses } }
  valid : live.current.Valid
  /-- A submission that is not valid is refused and changes nothing. -/
  refused : ∀ next : Settings, ¬ next.Valid →
    (∃ e : ConfigError, live.reload next = .error e) ∧ live.submit next = live
  /-- A valid one is taken, and the report names once each restart-only setting in which
  it differs from what is in force then; it names none exactly if there is no difference
  at all. -/
  taken : ∀ next : Settings, next.Valid →
    ∃ held : List RestartOnly,
      live.reload next = .ok (live.submit next, held) ∧
      (∀ f : RestartOnly, f.name ∈ held.map RestartOnly.name ↔
        ¬ f.Same next (live.submit next).current) ∧
      (held.map RestartOnly.name).Nodup ∧
      (held = [] ↔ (live.submit next).current = next)

/-- A host that was started with valid settings follows its submissions. -/
theorem reload_history {startup : Settings} (h : startup.Valid) :
    LiveSettings.start startup = .ok ⟨startup, startup⟩ ∧
      ∀ submissions : List Settings,
        Follows startup submissions (submitAll ⟨startup, startup⟩ submissions) := by
  refine ⟨start_eq_ok_iff.mpr ⟨h, rfl⟩, fun submissions => ?_⟩
  rw [submitAll_eq]
  refine
    { startup_eq := rfl
      current_eq := ?current
      valid := ?valid
      refused := fun next hnext => ⟨reload_of_not_valid _ hnext, submit_of_not_valid hnext⟩
      taken := fun next hnext => ⟨startup.heldBack next, ?reload, fun f => ?names, ?once, ?clean⟩ }
  case current => cases lastValid? submissions <;> rfl
  case valid =>
    cases hlast : lastValid? submissions with
    | none => exact h
    | some last => exact h.pinned (valid_of_lastValid? hlast)
  case reload => rw [reload_of_valid hnext, submit_of_valid hnext]
  case names =>
    rw [List.mem_map_of_injective RestartOnly.name_injective, submit_of_valid hnext]
    exact Settings.mem_heldBack_iff
  case once => exact List.Nodup.map RestartOnly.name_injective Settings.nodup_heldBack
  case clean => rw [submit_of_valid hnext]; exact Settings.heldBack_eq_nil_iff

/-- Settings that turn the hook on, with a table of eight slots, and exempt bob. -/
def smallAndOn : Settings :=
  { clientauth := { mode := .on, slots := 8, usersToSkip := ⟨["bob"]⟩ } }

/-- Settings for a table of no slots. -/
def slotless : Settings :=
  { clientauth := { slots := 0 } }

/-- A host that was started with the hook off and a full table exempts bob, and else stays
as it was. -/
theorem reload_history_smallAndOn :
    ({} : Settings).Valid ∧ ¬ slotless.Valid ∧
      (submitAll ⟨{}, {}⟩ [smallAndOn, slotless]).current =
        { clientauth := { usersToSkip := ⟨["bob"]⟩ } } := by
  have hvalid : ({} : Settings).Valid := by decide +kernel
  have hlast : lastValid? [smallAndOn, slotless] = some smallAndOn := by decide +kernel
  refine ⟨hvalid, by decide +kernel, ?_⟩
  have hcurrent := ((reload_history hvalid).2 [smallAndOn, slotless]).current_eq
  rw [hlast] at hcurrent
  exact hcurrent

end LiveSettings

end Admission
