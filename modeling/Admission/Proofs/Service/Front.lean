import Admission.Proofs.Client
import Admission.Proofs.Service.Tally
import Admission.Site
import Mathlib.Logic.Function.Basic

set_option autoImplicit false

/-!
# What clients meet of a service

The front of a service is all of it but its workers: its settings, its state, its
table and its tally.  Pools work without changing the front of any service of the
site, so that a request changes only the tally of the service it was sent to.
-/

namespace Admission

open Attempt

/-- A service apart from its workers and what they count. -/
structure Front where
  settings : LiveSettings
  state : PoolState
  table : Option SlotTable
  ownsPool : Bool
  tally : Tally
  deriving DecidableEq, Repr, Inhabited

namespace Front

/-- The front with an event in its tally. -/
def count (f : Front) (event : Counter) : Front :=
  { f with tally := f.tally.count event }

@[simp] theorem count_settings (f : Front) (event : Counter) :
    (f.count event).settings = f.settings := rfl

@[simp] theorem count_state (f : Front) (event : Counter) : (f.count event).state = f.state := rfl

@[simp] theorem count_table (f : Front) (event : Counter) : (f.count event).table = f.table := rfl

end Front

/-- The front of a service. -/
def Service.front (s : Service) : Front :=
  ⟨s.settings, s.state, s.table, s.ownsPool, s.metrics.tally⟩

/-- A pool that serves leaves the front of its service as it is. -/
theorem Service.front_serve (s : Service) (h : Host) : (s.serve h).1.front = s.front := by
  unfold serve
  split
  · next t _ _ =>
    have htally := Post.tally_pollRounds s.settings.current.clientauth (t.layout.slots + 1)
      s.posts ⟨s.metrics, h⟩
    exact congrArg (Front.mk s.settings s.state s.table s.ownsPool) htally
  · rfl

/-! ## Parties -/

namespace Client

theorem keeps_claim (cl : Client) (c : Connection) (status : Int32) :
    (cl.claim c status).Keeps Desk.tally :=
  cl.claim_keeps c status (fun _ => Desk.keeps_onHost _) Desk.keeps_say (fun _ => rfl)
    (Desk.keeps_signal _)

theorem keeps_claimBy (cl : Client) (c : Connection) (status : Int32) (deadline : Nat)
    (naps : Nat → Nat) : Attempt.Keeps Desk.tally (cl.claimBy c status deadline naps) :=
  cl.claimBy_keeps c status deadline naps (cl.keeps_claim c status) fun _ _ => rfl

theorem keeps_collect (cl : Client) (ticket : Ticket) :
    (cl.collect ticket).Keeps Desk.tally := by
  unfold collect
  refine (Desk.keeps_onHost _).bind fun result => ?_
  cases result with
  | some rejection => exact (Desk.keeps_signal _ _).bind fun _ => keeps_pure _
  | none => exact keeps_pure _

theorem keeps_abandon (cl : Client) (ticket : Ticket) :
    (cl.abandon ticket).Keeps Desk.tally :=
  (Desk.keeps_onHost _).bind fun _ => Desk.keeps_signal _ _

/-- To report that there was no slot counts a timeout and rejects. -/
theorem reportNoSlot_books (cl : Client) (d : Desk) :
    (cl.reportNoSlot d).1 = .done (.abort claimTimeout) ∧
      (cl.reportNoSlot d).2.tally = d.tally.count .timeouts :=
  ⟨rfl, rfl⟩

/-- To report that there was no answer counts a timeout and, once it is done, rejects. -/
theorem reportNoAnswer_books (cl : Client) (ticket : Ticket) (d : Desk) :
    (∀ verdict : Verdict, (cl.reportNoAnswer ticket d).1 = .done verdict →
      verdict = .abort workerTimeout) ∧
      (cl.reportNoAnswer ticket d).2.tally = d.tally.count .timeouts := by
  have hrun : ∃ d₁ : Desk, d₁.tally = d.tally.count .timeouts ∧
      cl.reportNoAnswer ticket d =
        (cl.abandon ticket >>= fun _ => pure (.abort workerTimeout)) d₁ :=
    ⟨_, rfl, rfl⟩
  obtain ⟨d₁, htally, hrun⟩ := hrun
  have habandon := cl.keeps_abandon ticket d₁
  rw [hrun, bind_apply]
  generalize cl.abandon ticket d₁ = result at *
  obtain ⟨ending, d₂⟩ := result
  cases ending with
  | done _ => exact ⟨fun verdict h => (Ending.done.inj h).symm, habandon.trans htally⟩
  | failed e => exact ⟨nofun, habandon.trans htally⟩
  | unwound p => exact ⟨nofun, habandon.trans htally⟩

end Client

/-! ## Sites -/

namespace Site

/-- The fronts of all services of a site, by their names. -/
def fronts (s : Site) (name : String) : Front :=
  (s.service name).front

theorem service_setService (s : Site) (name : String) (service : Service) (other : String) :
    (s.setService name service).service other =
      if other = name then service else s.service other := by
  simp only [Site.service, setService, Dict.get?_insert]
  split <;> rfl

@[simp] theorem service_setService_self (s : Site) (name : String) (service : Service) :
    (s.setService name service).service name = service := by
  rw [service_setService, if_pos rfl]

theorem fronts_setService (s : Site) (name : String) (service : Service) :
    (s.setService name service).fronts = Function.update s.fronts name service.front := by
  funext other
  rw [fronts, service_setService, Function.update_apply]
  split
  · rfl
  · rfl

theorem fronts_serve (segment : Nat) (s : Site) : (serve segment s).fronts = s.fronts := by
  unfold serve
  generalize s.servicesOn segment = names
  induction names generalizing s with
  | nil => rfl
  | cons name rest ih =>
    have hserved : (s.setService name ((s.service name).serve s.host).1).fronts = s.fronts := by
      rw [fronts_setService, Service.front_serve]
      exact Function.update_eq_self name s.fronts
    exact (ih _).trans hserved

/-- However long one waits, no front changes. -/
theorem fronts_awaitAnswer (t : SlotTable) (slot : Nat) (deadline : Option Nat) (pauses : Nat)
    (s : Site) : (awaitAnswer t slot deadline pauses s).fronts = s.fronts := by
  induction pauses generalizing s with
  | zero => exact fronts_serve t.segment s
  | succ pauses ih =>
    have hserve := fronts_serve t.segment s
    rw [awaitAnswer]
    generalize serve t.segment s = s' at *
    split
    · exact hserve
    · split
      · exact hserve
      · split
        · exact (ih _).trans hserve
        · exact hserve

theorem keeps_await (t : SlotTable) (slot : Nat) (deadline : Option Nat) :
    (await t slot deadline).Keeps fronts :=
  fun s => fronts_awaitAnswer t slot deadline _ s

theorem keeps_expire (deadline : Option Nat) : (expire deadline).Keeps fronts :=
  fun _ => rfl

theorem keeps_deadline (timeout : Option Duration) : (deadline timeout).Keeps fronts := by
  unfold deadline
  cases timeout with
  | none => exact keeps_pure _
  | some d =>
    refine (keeps_gets _).bind fun moment => ?_
    cases moment with
    | some moment => exact keeps_pure _
    | none => exact keeps_conclude _

/-- What is done at the desk of a service changes its tally at most. -/
theorem fronts_atDesk {α : Type} (name : String) (x : Attempt Desk α) (s : Site) :
    (atDesk name x s).2.fronts =
      Function.update s.fronts name
        { s.fronts name with tally := (x (s.desk name)).2.tally } :=
  fronts_setService s name _

theorem keeps_atDesk {α : Type} (name : String) {x : Attempt Desk α}
    (hx : x.Keeps Desk.tally) : (atDesk name x).Keeps fronts := by
  intro s
  rw [fronts_atDesk, hx]
  exact Function.update_eq_self name s.fronts

theorem fronts_count (name : String) (event : Counter) (s : Site) :
    (atDesk name (Desk.count event) s).2.fronts =
      Function.update s.fronts name ((s.fronts name).count event) := by
  rw [fronts_atDesk]
  exact congrArg (fun l => Function.update s.fronts name { s.fronts name with tally := l })
    ((s.service name).metrics.tally_count event)

/-! ## Requests -/

section Request

variable {name : String} {s s' : Site} {c : Connection} {status : Int32} {verdict : Verdict}

/-- A round trip that comes to a verdict counts nothing, or that it took too long, and
then it rejects. -/
theorem fronts_roundTrip {cl : Client} {timeout : Option Duration}
    (h : roundTrip name cl c status timeout s = (.done verdict, s')) :
    s'.fronts = s.fronts ∨
      (∃ reason : String, verdict = .abort reason) ∧
        s'.fronts = Function.update s.fronts name ((s.fronts name).count .timeouts) := by
  unfold roundTrip at h
  obtain ⟨deadline, s₁, hdeadline, h⟩ := bind_eq_done_iff.mp h
  obtain ⟨_, s₂, hawait, h⟩ := bind_eq_done_iff.mp h
  obtain ⟨claimed, s₃, hclaim, h⟩ := bind_eq_done_iff.mp h
  have hfronts₃ : s₃.fronts = s.fronts := by
    have h₁ := keeps_deadline timeout s
    have h₂ := keeps_await cl.table cl.slot deadline s₁
    have h₃ := keeps_atDesk name (cl.keeps_claimBy c status (deadline.getD 0)
      fun now => deadline.getD 0 - now - 1) s₂
    rw [hdeadline] at h₁
    rw [hawait] at h₂
    rw [hclaim] at h₃
    exact h₃.trans (h₂.trans h₁)
  cases claimed with
  | none =>
    replace h : atDesk name cl.reportNoSlot s₃ = (.done verdict, s') := h
    have hreport := cl.reportNoSlot_books (s₃.desk name)
    have hfronts := fronts_atDesk name cl.reportNoSlot s₃
    rw [h, hreport.2] at hfronts
    have hverdict : Ending.done verdict = .done (.abort Client.claimTimeout) :=
      (congrArg Prod.fst h).symm.trans hreport.1
    refine .inr ⟨⟨_, Ending.done.inj hverdict⟩, ?_⟩
    rw [← hfronts₃]
    exact hfronts
  | some ticket =>
    obtain ⟨_, s₄, hawait₄, h⟩ := bind_eq_done_iff.mp h
    obtain ⟨collected, s₅, hcollect, h⟩ := bind_eq_done_iff.mp h
    have hfronts₅ : s₅.fronts = s.fronts := by
      have h₄ := keeps_await cl.table cl.slot deadline s₃
      have h₅ := keeps_atDesk name (cl.keeps_collect ticket) s₄
      rw [hawait₄] at h₄
      rw [hcollect] at h₅
      exact h₅.trans (h₄.trans hfronts₃)
    cases collected with
    | some found =>
      cases h
      exact .inl hfronts₅
    | none =>
      obtain ⟨_, s₆, hexpire, h⟩ := bind_eq_done_iff.mp h
      have h₆ := keeps_expire deadline s₅
      rw [hexpire] at h₆
      have hreport := cl.reportNoAnswer_books ticket (s₆.desk name)
      have hfronts := fronts_atDesk name (cl.reportNoAnswer ticket) s₆
      rw [h, hreport.2] at hfronts
      refine .inr ⟨⟨_, hreport.1 verdict (congrArg Prod.fst h)⟩, ?_⟩
      rw [← hfronts₅, ← h₆]
      exact hfronts

end Request

end Site

end Admission
