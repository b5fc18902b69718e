import Admission.Proofs.Client
import Admission.Proofs.Decision.Poll
import Admission.Proofs.Traffic.Basic

set_option autoImplicit false

/-!
# The verdict on a request

A client that publishes its request in an idle slot, and whose worker then serves it
with no fault, reads a verdict that says what is ruled about the request: on the texts
as the slot holds them, and by the settings and the catalog that the worker's poll
found.  It makes no difference what the worker did before.
-/

namespace Admission

open Attempt

/-- The verdict lets the request go ahead exactly if it is ruled to be accepted, and
otherwise gives the longest beginning of the reason, on one line, that the slot holds. -/
structure Ruling.Gives (ruling : Ruling) (verdict : Verdict) : Prop where
  proceed_iff : verdict = .proceed ↔ ruling = .accept
  abort_of_reject : ∀ reason : String, ruling = .reject reason →
    ∃ m : String, verdict = .abort m ∧ FixedString.LongestFront 255 (Text.singleLine reason) m

/-- What was told goes through the slot to the verdict. -/
theorem Ruling.Told.gives {ruling : Ruling} {answer : Option String} (h : ruling.Told answer) :
    ruling.Gives (.ofRejection (Slot.kept (answer.map Text.singleLine))) := by
  have hanswer : answer.map Text.singleLine = ruling.reason?.map Text.singleLine := h
  rw [hanswer]
  cases ruling with
  | accept => exact ⟨⟨fun _ => rfl, fun _ => rfl⟩, nofun⟩
  | reject reason =>
    refine ⟨⟨nofun, nofun⟩, ?_⟩
    rintro _ ⟨⟩
    exact ⟨_, rfl, FixedString.longestFront_cut errorMessageCapacity _⟩

/-! ## Workers with a past -/

/-- A worker that was taken on and has polled any number of times since, each time with
settings that name this database, which no reload changes; what else they say, what was
asked of the worker then, and what went wrong, is open. -/
inductive Worker.Seasoned (database : String) : Worker → Prop where
  | new (index : Nat) (table : SlotTable) : Seasoned database { index, table }
  | poll {s : Shift} {settings : ClientAuthSettings} (hdatabase : settings.database = database)
      (h : Seasoned database s.worker) : Seasoned database (Shift.poll settings s).2.worker

/-- Whatever a worker has been through, it is at rest between two polls. -/
theorem Worker.Seasoned.rested {database : String} {w : Worker} (h : w.Seasoned database) :
    w.Rested database := by
  induction h with
  | new index table => exact nofun
  | @poll s settings hdatabase _ ih =>
    subst hdatabase
    exact Shift.rests_poll settings s ih

/-! ## From the claim to the verdict -/

namespace Client

/-- A client publishes its request in an idle slot of the table, its worker polls and
comes to that slot, and the client looks for the verdict there.  What happens between
these moments is open, as long as the slot stays as it was left. -/
structure Served (cl : Client) (c : Connection) (status : Int32) (settings : ClientAuthSettings)
    (claiming : Desk) (serving : Shift) (collecting : Desk) : Prop where
  slot_lt : cl.slot < cl.table.layout.slots
  claiming_maps : claiming.host.Maps cl.table
  idle : (claiming.host.slot cl.table cl.slot).isIdle = true
  table_eq : serving.worker.table = cl.table
  serving_maps : serving.desk.host.Maps cl.table
  published : serving.desk.host.slot cl.table cl.slot =
    (cl.claim c status claiming).2.host.slot cl.table cl.slot
  next : serving.worker.nextPending? (serving.desk.host.region cl.table) = some cl.slot
  collecting_maps : collecting.host.Maps cl.table
  answered : collecting.host.slot cl.table cl.slot =
    (Shift.poll settings serving).2.desk.host.slot cl.table cl.slot

/-- A claim of an idle slot is granted, and puts the request in. -/
theorem claim_of_idle {cl : Client} {d : Desk} (c : Connection) (status : Int32)
    (hm : d.host.Maps cl.table) (hslot : cl.slot < cl.table.layout.slots)
    (hidle : (d.host.slot cl.table cl.slot).isIdle = true) :
    (cl.claim c status d).1 = .done (some ⟨cl.slot⟩) ∧
      ((cl.claim c status d).2.host.slot cl.table cl.slot).request.connection = c.cut ∧
      ((cl.claim c status d).2.host.slot cl.table cl.slot).request.status = status := by
  obtain ⟨havailable, hdone⟩ := Slot.isIdle_iff.mp hidle
  have hgranted :
      ((d.host.slot cl.table cl.slot).claim d.host.processes cl.pid c status).2 = true :=
    Slot.claim_granted_iff.mpr ⟨hdone, .inl havailable⟩
  obtain ⟨d', hrun, hleft⟩ := claim_spec cl c status hm hslot
  rw [if_pos hgranted] at hrun
  rw [hrun, hleft.slot_self, Slot.claim_of_granted hgranted]
  exact ⟨rfl, Slot.publishRequest_load _ _ _ _, rfl⟩

/-- A look at an answered slot finds the verdict in it. -/
theorem collect_of_answered {cl : Client} {d : Desk} (hm : d.host.Maps cl.table)
    (hslot : cl.slot < cl.table.layout.slots)
    (hdone : (d.host.slot cl.table cl.slot).done = true) :
    ∃ d' : Desk, cl.collect ⟨cl.slot⟩ d =
      (.done (some (.ofRejection (d.host.slot cl.table cl.slot).result?)), d') := by
  obtain ⟨d', hrun, -⟩ := collect_spec cl ⟨cl.slot⟩ hm hslot
  dsimp only at hrun
  rw [Slot.collect_of_done hdone] at hrun
  exact ⟨d', hrun⟩

variable {cl : Client} {c : Connection} {status : Int32} {settings : ClientAuthSettings}
  {claiming collecting : Desk} {serving : Shift}

/-- The verdict that a client reads says what is ruled about its request, whatever its
worker has been through. -/
theorem verdict_of_ruling
    (h : cl.Served c status settings claiming serving collecting)
    (hw : serving.worker.Seasoned settings.database)
    (ht : serving.desk.host.catalog.TransactionalIn settings.database)
    (hspared : ¬ (Shift.poll settings).Struck serving) :
    (cl.claim c status claiming).1 = .done (some ⟨cl.slot⟩) ∧
      (Shift.poll settings serving).1 = .done true ∧
      ∃ (verdict : Verdict) (after : Desk),
        cl.collect ⟨cl.slot⟩ collecting = (.done (some verdict), after) ∧
        (settings.ruling serving.desk.host.catalog (serving.worker.missing settings.database)
          c.cut status).1.Gives verdict := by
  obtain ⟨hgranted, hconnection, hstatus⟩ :=
    claim_of_idle c status h.claiming_maps h.slot_lt h.idle
  rw [← h.published] at hconnection hstatus
  have hm : serving.desk.host.Maps serving.worker.table := by
    rw [h.table_eq]
    exact h.serving_maps
  have hfound : Shift.found serving.worker (serving.desk.host.slot serving.worker.table) =
      some (cl.slot, (serving.desk.host.slot cl.table cl.slot).request) := by
    have hnext := h.next
    rw [Worker.nextPending?] at hnext
    rw [h.table_eq, Shift.found, Host.slot.eq_def]
    exact congrArg (Option.map _) hnext
  obtain ⟨answer, hanswered, hruled⟩ :=
    Shift.answered_of_spared hm hfound hw.rested ht hspared
  rw [hconnection, hstatus] at hruled
  obtain ⟨hdone, hresult⟩ := hanswered.result?_eq
  rw [h.table_eq, ← h.answered] at hdone hresult
  obtain ⟨after, hcollect⟩ := collect_of_answered h.collecting_maps h.slot_lt hdone
  obtain ⟨_, htold, hgives⟩ := hruled.told
  obtain rfl := Option.some.inj htold
  rw [hresult] at hcollect
  exact ⟨hgranted, hanswered.done, _, after, hcollect, hgives.gives⟩

end Client

/-! ## Alice at the lone table -/

section Alice

open Traffic

/-- A catalog whose one procedure lets nobody in. -/
def denyingCatalog : Catalog :=
  ⟨⟨[("postgres",
    { catalogInstalled := true
      procedures := ⟨[(("public", "deny"),
        fun _ => .finish (.done (.text (some "nobody\nmay connect"))))]⟩
      registrations := [⟨.clientauth, "public", "deny"⟩] })]⟩⟩

theorem transactional_denyingCatalog : denyingCatalog.TransactionalIn "postgres" := by
  rintro db ⟨⟩ name body hbody args
  by_cases hname : name = ("public", "deny")
  · subst hname
    cases hbody
    exact .finish _
  · rw [Dict.get?, Dict.lookup_cons_ne hname] at hbody
    cases hbody

/-- The client of alice at the lone table. -/
def aliceClient : Client :=
  (alices 0).client lone

/-- Alice has claimed the slot. -/
def aliceClaimed : Desk :=
  (aliceClient.claim (alices 0).connection 0 (loneDesk [7])).2

/-- The worker comes when the catalog is there. -/
def aliceServed : Shift :=
  ⟨loneWorker, { aliceClaimed with host := { aliceClaimed.host with catalog := denyingCatalog } }⟩

/-- What there is before and after the poll. -/
theorem alice_run :
    ((loneDesk [7]).host.slot lone 0).isIdle = true ∧
      aliceServed.desk.host.memory.segments.length = 1 ∧
      aliceServed.worker.nextPending? (aliceServed.desk.host.region lone) = some 0 ∧
      (Shift.poll { mode := .on } aliceServed).2.desk.host.memory.segments.length = 1 ∧
      Exposed.threats aliceServed = 0 ∧
      (ClientAuthSettings.ruling { mode := .on } denyingCatalog
        (aliceServed.worker.missing "postgres") (alices 0).connection.cut 0).1 =
          .reject "nobody\nmay connect" := by
  decide +kernel

theorem served_alice :
    aliceClient.Served (alices 0).connection 0 { mode := .on } (loneDesk [7]) aliceServed
      (Shift.poll { mode := .on } aliceServed).2.desk := by
  obtain ⟨hidle, hclaimed, hnext, hserved, -⟩ := alice_run
  have hvalid : lone.layout.Valid := by decide
  exact {
    slot_lt := Nat.zero_lt_one
    claiming_maps := (fresh_loneDesk _).maps
    idle := hidle
    table_eq := rfl
    serving_maps := ⟨by rw [hclaimed]; exact Nat.zero_lt_one, hvalid⟩
    published := by simp only [Host.slot, Host.region, aliceServed, aliceClaimed]
    next := hnext
    collecting_maps := ⟨by rw [hserved]; exact Nat.zero_lt_one, hvalid⟩
    answered := rfl }

/-- What alice reads says why nobody may connect. -/
theorem Client.verdict_of_ruling_alice : ∃ (m : String) (after : Desk),
    aliceClient.collect ⟨0⟩ (Shift.poll { mode := .on } aliceServed).2.desk =
      (.done (some (.abort m)), after) ∧
    FixedString.LongestFront 255 (Text.singleLine "nobody\nmay connect") m := by
  obtain ⟨-, -, -, -, hthreats, hruling⟩ := alice_run
  have hspared : ¬ (Shift.poll { mode := .on }).Struck aliceServed := by
    rw [Struck, hthreats]
    exact Nat.not_lt_zero _
  obtain ⟨-, -, verdict, after, hcollect, hgives⟩ :=
    Client.verdict_of_ruling served_alice (.new 0 lone) transactional_denyingCatalog hspared
  obtain ⟨m, rfl, hfront⟩ := hgives.abort_of_reject _ hruling
  exact ⟨m, after, hcollect, hfront⟩

end Alice

end Admission
