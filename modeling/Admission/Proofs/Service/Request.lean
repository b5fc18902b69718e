import Admission.Proofs.Precheck
import Admission.Proofs.Service.Front
import Admission.Proofs.Settings.Reload
import Admission.Proofs.Traffic.Basic

set_option autoImplicit false

/-!
# What is asked of a service

A service is started or attached, asked about connections, given other settings and
shut down.  What each of these does to the front of the service is told here; a
connection that the settings decide takes one way, and one that they leave to the
pool another.
-/

namespace Admission

open Attempt

/-! ## What changes the front -/

namespace Service

/-- A shutdown changes the state, and the front no more when it is the second one. -/
theorem front_shutdown (s : Service) (h : Host) :
    (s.shutdown h).1.front =
      if s.state = .stopped then s.front
      else { s.front with state := .stopped, ownsPool := false } := by
  unfold shutdown
  split <;> rfl

/-- A valid submission is put in force, and workers that never sleep are polled then. -/
theorem reload_of_valid {next : Settings} (hvalid : next.Valid) (s : Service) (h : Host) :
    ∃ polled : Service × Host,
      (polled = { s with settings := s.settings.submit next }.serve h ∨
        polled = ({ s with settings := s.settings.submit next }, h)) ∧
      s.reload next h = .ok (s.settings.startup.heldBack next, polled.1,
        polled.2.say (LiveSettings.reloadLog (s.settings.startup.heldBack next))) := by
  unfold reload
  rw [LiveSettings.reload_of_valid hvalid, LiveSettings.submit_of_valid hvalid]
  -- The pause is compared with a number too large to compute with, so only its value is kept.
  generalize s.settings.current.clientauth.livenessInterval.asleep = pause
  cases pause with
  | zero => exact ⟨_, .inl rfl, rfl⟩
  | succ pause => exact ⟨_, .inr rfl, rfl⟩

theorem reload_of_not_valid {next : Settings} (hvalid : ¬ next.Valid) (s : Service) (h : Host) :
    ∃ e : ConfigError, s.reload next h = .error e := by
  obtain ⟨e, he⟩ := LiveSettings.reload_of_not_valid s.settings hvalid
  exact ⟨e, by rw [reload, he]; rfl⟩

section Begin

variable {settings : Settings} {h h' : Host} {service : Service}

/-- A service begins with the settings it is given, without counts, and without a table
if they turn the hook off. -/
structure Fresh (settings : Settings) (service : Service) : Prop where
  settings_eq : service.settings = ⟨settings, settings⟩
  metrics_eq : service.metrics = {}
  table_eq : settings.clientauth.mode = .off → service.table = none

theorem startPool_fresh (live : LiveSettings) (t : SlotTable) (h : Host) :
    (startPool live t h).1.settings = live ∧ (startPool live t h).1.metrics = {} := by
  unfold startPool
  dsimp only
  split
  · exact ⟨rfl, rfl⟩
  · split
    · exact ⟨rfl, rfl⟩
    · exact ⟨rfl, rfl⟩

theorem start_fresh (hstart : start settings h = (.ok service, h')) : Fresh settings service := by
  unfold start at hstart
  split at hstart
  · cases hstart
  next live hlive =>
  obtain ⟨-, rfl⟩ := LiveSettings.start_eq_ok_iff.mp hlive
  dsimp only at hstart
  split at hstart
  · cases hstart
    exact ⟨rfl, rfl, fun _ => rfl⟩
  next hon =>
  split at hstart
  · cases hstart
  · split at hstart
    · cases hstart
    · next t _ =>
      have hfresh := startPool_fresh ⟨settings, settings⟩ t
      cases hstart
      exact ⟨(hfresh _).1, (hfresh _).2, fun hoff => absurd hoff hon⟩

theorem attach_fresh (hattach : attach settings h = (.ok service, h')) :
    Fresh settings service := by
  unfold attach at hattach
  split at hattach
  · cases hattach
  next live hlive =>
  obtain ⟨-, rfl⟩ := LiveSettings.start_eq_ok_iff.mp hlive
  dsimp only at hattach
  split at hattach
  · cases hattach
    exact ⟨rfl, rfl, fun _ => rfl⟩
  next hon =>
  split at hattach
  · cases hattach
  split at hattach
  · cases hattach
  split at hattach
  · cases hattach
  split at hattach
  · cases hattach
  · cases hattach
    exact ⟨rfl, rfl, fun hoff => absurd hoff hon⟩

end Begin

end Service

namespace Site

/-- The site after a submission of settings to a service, which may refuse it. -/
def reload (s : Site) (name : String) (next : Settings) : Site :=
  match (s.service name).reload next s.host with
  | .ok (_, service, h) => { s.setService name service with host := h }
  | .error _ => s

/-- The site after the shutdown of a service. -/
def shutdown (s : Site) (name : String) : Site :=
  { s.setService name ((s.service name).shutdown s.host).1 with
    host := ((s.service name).shutdown s.host).2 }

/-- A reload submits the settings, and changes no more of any front. -/
theorem fronts_reload (s : Site) (name : String) (next : Settings) :
    (s.reload name next).fronts =
      Function.update s.fronts name
        { s.fronts name with settings := (s.fronts name).settings.submit next } := by
  unfold reload
  by_cases hvalid : next.Valid
  · obtain ⟨polled, hpolled, hreload⟩ := Service.reload_of_valid hvalid (s.service name) s.host
    rw [hreload]
    refine (fronts_setService s name polled.1).trans (congrArg (Function.update s.fronts name) ?_)
    obtain rfl | rfl := hpolled
    · exact Service.front_serve _ _
    · rfl
  · obtain ⟨e, he⟩ := Service.reload_of_not_valid hvalid (s.service name) s.host
    rw [he, LiveSettings.submit_of_not_valid hvalid]
    exact (Function.update_eq_self name s.fronts).symm

theorem fronts_shutdown (s : Site) (name : String) :
    (s.shutdown name).fronts =
      Function.update s.fronts name
        (if (s.fronts name).state = .stopped then s.fronts name
          else { s.fronts name with state := .stopped, ownsPool := false }) :=
  (fronts_setService s name _).trans (by rw [Service.front_shutdown]; rfl)

/-- A new service is met as it was made. -/
theorem fronts_launch {s : Site} {name : String}
    {make : Host → Except PoolError Service × Host} (h : (s.launch name make).1.isOk = true) :
    ∃ (service : Service) (h' : Host), make (s.dropService name).host = (.ok service, h') ∧
      (s.launch name make).2.fronts name = service.front := by
  unfold launch at h ⊢
  dsimp only at h ⊢
  generalize make (s.dropService name).host = made at *
  obtain ⟨result, h'⟩ := made
  cases result with
  | error e => cases h
  | ok service =>
    refine ⟨service, h', rfl, ?_⟩
    dsimp only
    rw [fronts_setService, Function.update_self]

end Site

/-! ## Requests -/

/-- What is counted of a verdict. -/
def Verdict.counter : Verdict → Counter
  | .proceed => .proceeded
  | .abort _ => .aborted

namespace Site

/-- Have the connection of an errand checked by a service. -/
def ask (name : String) (e : Errand) : Attempt Site Verdict :=
  authenticate name e.pid e.key e.connection e.status

/-- The settings of the connection hook that are in force at a service. -/
def clientauth (s : Site) (name : String) : ClientAuthSettings :=
  (s.service name).settings.current.clientauth

/-- The service comes to this verdict, and nothing of the host changes but the log. -/
def Tells (s : Site) (name : String) (e : Errand) (verdict : Verdict) : Prop :=
  ∃ (lines : List LogLine) (s' : Site),
    ask name e s = (.done verdict, s') ∧ s'.host = s.host.say lines

/-- The site with an event counted at a service. -/
def counted (s : Site) (name : String) (event : Counter) : Site :=
  (atDesk name (Desk.count event) s).2

variable {name : String} {e : Errand} {s s' : Site} {verdict : Verdict}

theorem fronts_counted (s : Site) (name : String) (event : Counter) :
    (s.counted name event).fronts =
      Function.update s.fronts name ((s.fronts name).count event) :=
  fronts_count name event s

/-- To count an event changes the counts of the service it is counted at. -/
theorem service_counted (s : Site) (name : String) (event : Counter) :
    (s.counted name event).service name =
      { s.service name with metrics := (s.service name).metrics.count event } :=
  service_setService_self s name _

/-- A verdict is counted and logged. -/
theorem report_run (name : String) (c : Connection) (verdict : Verdict) (s : Site) :
    ∃ (lines : List LogLine) (s' : Site),
      report name c verdict s = (.done (), s') ∧ s'.host = s.host.say lines ∧
        s'.fronts = Function.update s.fronts name ((s.fronts name).count verdict.counter) := by
  cases verdict with
  | proceed =>
    refine ⟨[], s.counted name .proceeded, rfl, ?_, fronts_counted s name .proceeded⟩
    show s.host = s.host.say []
    simp [Host.say]
  | abort reason =>
    refine ⟨_, _, rfl, rfl, ?_⟩
    exact (keeps_atDesk name (Desk.keeps_say _ _) _).trans (fronts_counted s name .aborted)

/-- What a service does about a connection that its settings do not decide. -/
def route (name : String) (e : Errand) (f : Front) : Attempt Site Verdict :=
  match f.state, f.table with
  | .running, some t | .attached, some t =>
    roundTrip name (e.client t) e.connection e.status
      f.settings.current.clientauth.requestTimeout
  | .exhausted, _ => pure (.abort Service.poolExhausted)
  | .disabled, _ => pure .proceed
  | _, _ => pure (.abort Service.poolStopped)

/-- A connection that the settings do not decide is counted and routed, and the verdict
is reported. -/
theorem ask_of_queue (h : precheck (s.clientauth name) e.connection = .queue) :
    ask name e s =
      (route name e (s.fronts name) >>= fun verdict =>
        report name e.connection verdict >>= fun _ => pure verdict)
        (s.counted name .requests) := by
  have hcount : atDesk name (Desk.count .requests) s = (.done (), s.counted name .requests) := rfl
  unfold ask authenticate
  rw [bind_of_done hcount, gets_bind_apply, service_counted]
  unfold clientauth at h
  dsimp only
  rw [h]
  dsimp only [route, fronts, Service.front]
  cases (s.service name).state
  all_goals cases (s.service name).table
  all_goals rfl

/-- A connection that the settings decide proceeds at once, and is counted as skipped. -/
theorem ask_of_exempt (h : precheck (s.clientauth name) e.connection ≠ .queue) :
    ∃ (lines : List LogLine) (s' : Site),
      ask name e s = (.done .proceed, s') ∧ s'.host = s.host.say lines ∧
        s'.fronts = Function.update s.fronts name
          ((((s.fronts name).count .requests).count .skipped).count .proceeded) := by
  have hcount : atDesk name (Desk.count .requests) s = (.done (), s.counted name .requests) := rfl
  -- Both exemptions end with these two counts.
  have hfronts : ∀ s₁ : Site, s₁.fronts = (s.counted name .requests).fronts →
      ((s₁.counted name .skipped).counted name .proceeded).fronts = Function.update s.fronts name
        ((((s.fronts name).count .requests).count .skipped).count .proceeded) := by
    intro s₁ h₁
    simp only [fronts_counted, h₁, Function.update_self, Function.update_idem]
  unfold ask authenticate
  rw [bind_of_done hcount, gets_bind_apply, service_counted]
  dsimp only
  cases hcheck : precheck (s.service name).settings.current.clientauth e.connection with
  | queue => exact absurd hcheck h
  | skip reason =>
    exact ⟨_, _, rfl, rfl, hfronts _ (keeps_atDesk name (Desk.keeps_say _ _) _)⟩
  | disabled =>
    refine ⟨[], _, rfl, ?_, hfronts _ rfl⟩
    show s.host = s.host.say []
    simp [Host.say]

end Site

end Admission
