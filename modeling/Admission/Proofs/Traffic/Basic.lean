import Admission.Proofs.Client
import Admission.Proofs.Slot
import Admission.Proofs.Table.Header
import Admission.Proofs.Worker
import Mathlib.Logic.Relation

set_option autoImplicit false

/-!
# The traffic at a table

Clients and workers meet at a slot table, and each takes its steps under the table
lock, in any order.  A visit is what one client does about one request: it claims
its slot, waits for the verdict, and leaves with it or without.  Clients, workers
and deaths make the moves; a move runs the very step of the client or the worker,
and keeps a record beside it of who claimed which slot when, what was copied, what
each worker decided, and what was answered.  Claims of a slot are counted, and a claim
is known by its slot and its turn.

What moves there are is a matter of four rules.  `Permits` is what anybody is able
to do; `Orderly` is how clients behave that stop when their process dies and use a
ticket once; `Timely` is how late a worker may be, and `Decided` what it may say.
-/

namespace Admission

/-- The processes without one that has died. -/
def Processes.without (ps : Processes) (pid : Pid) : Processes :=
  { ps with living := ps.living.filter (· ≠ pid) }

theorem Processes.isAlive_of_without {ps : Processes} {pid other : Pid}
    (h : (ps.without pid).isAlive other = true) : ps.isAlive other = true := by
  simp only [isAlive, without, Bool.and_eq_true, List.contains_iff_mem, List.mem_filter] at h ⊢
  exact ⟨h.1, h.2.1⟩

/-- What a visit is about: the process and the key of the client, and the request. -/
structure Errand where
  pid : Pid
  key : Nat
  connection : Connection
  status : Int32
  deriving DecidableEq, Repr, Inhabited

namespace Errand

/-- The slot that the key leads to. -/
def slot (e : Errand) (t : SlotTable) : Nat :=
  t.layout.slotForKey e.key

/-- Who runs the errand. -/
def client (e : Errand) (t : SlotTable) : Client :=
  .forConnection t e.pid e.key

/-- The ticket of the errand once its request is published. -/
def ticket (e : Errand) (t : SlotTable) : Ticket :=
  ⟨e.slot t⟩

/-- The request as a worker copies it, when it was claimed for in this turn. -/
def request (e : Errand) (turn : Nat) : Request :=
  ⟨UInt32.ofNat turn, e.connection.cut, e.status⟩

theorem slot_lt {t : SlotTable} (h : t.layout.Valid) (e : Errand) : e.slot t < t.layout.slots :=
  Layout.slotForKey_lt h e.key

end Errand

/-- The slot holds the request of this errand. -/
structure Slot.Carries (s : Slot) (e : Errand) : Prop where
  owner_eq : s.owner = e.pid
  connection_eq : s.connection.load = e.connection.cut
  status_eq : s.status = e.status

/-- How far a visit is. -/
inductive Phase where
  /-- Nothing is claimed yet. -/
  | arriving
  /-- No slot could be claimed in time. -/
  | turnedAway
  /-- The request was published in this turn of its slot. -/
  | waiting (turn : Nat)
  /-- The verdict on the request of this turn was read. -/
  | answered (turn : Nat) (verdict : Verdict)
  /-- The request of this turn was given up. -/
  | gone (turn : Nat)
  deriving DecidableEq, Repr, Inhabited

namespace Phase

/-- The turn of the claim, if there was one. -/
def turn? : Phase → Option Nat
  | .arriving | .turnedAway => none
  | .waiting turn | .answered turn _ | .gone turn => some turn

/-- What the client tells its caller when the visit is over. -/
def verdict? : Phase → Option Verdict
  | .arriving | .waiting _ => none
  | .turnedAway => some (.abort Client.claimTimeout)
  | .answered _ verdict => some verdict
  | .gone _ => some (.abort Client.workerTimeout)

/-- What reading a verdict makes of a visit; one that is over stays as it is. -/
def read (p : Phase) (verdict : Verdict) : Phase :=
  match p with
  | .waiting turn => .answered turn verdict
  | p => p

/-- What giving up makes of a visit; one that is over stays as it is. -/
def giveUp : Phase → Phase
  | .waiting turn => .gone turn
  | p => p

@[simp] theorem turn?_waiting (turn : Nat) : (waiting turn).turn? = some turn := rfl

@[simp] theorem turn?_read (p : Phase) (verdict : Verdict) : (p.read verdict).turn? = p.turn? := by
  cases p <;> rfl

@[simp] theorem turn?_giveUp (p : Phase) : p.giveUp.turn? = p.turn? := by
  cases p <;> rfl

/-- Who has something to tell does not wait any more. -/
theorem ne_waiting_of_verdict? {p : Phase} {verdict : Verdict} (h : p.verdict? = some verdict)
    (turn : Nat) : p ≠ .waiting turn := by
  rintro rfl
  cases h

end Phase

/-- A request as a worker copied it. -/
structure Copy where
  slot : Nat
  /-- How many claims the slot had had by then. -/
  turn : Nat
  request : Request
  deriving DecidableEq, Repr, Inhabited

/-- What a worker decided. -/
structure Decision where
  /-- The worker, as it was once it had decided. -/
  worker : Worker
  /-- What it was decided from. -/
  copy : Copy
  rejection : Option String
  deriving DecidableEq, Repr, Inhabited

/-- With some settings a worker of the table came to the decision at this desk. -/
def Decision.MadeAt (δ : Decision) (t : SlotTable) (d : Desk) : Prop :=
  ∃ (settings : ClientAuthSettings) (w : Worker) (reason : Option String) (d' : Desk),
    w.table = t ∧
      Shift.decide settings δ.copy.request ⟨w, d⟩ = (.done reason, ⟨δ.worker, d'⟩) ∧
      δ.rejection = reason.map Text.singleLine

/-- A verdict that a slot took: whose it was, and what it was decided from. -/
structure Answer extends Decision where
  /-- How many claims the slot had had when it took the verdict. -/
  turn : Nat
  deriving DecidableEq, Repr, Inhabited

/-- All that goes on at a table. -/
structure Traffic where
  desk : Desk
  /-- How far every visit is. -/
  phase : Nat → Phase
  /-- How many claims every slot has had. -/
  turns : Nat → Nat
  /-- All copies that were made, the latest first. -/
  copies : List Copy
  /-- All verdicts that were taken, the latest first. -/
  answers : List Answer
  /-- All that workers decided, the latest first. -/
  decisions : List Decision

/-- Something that one party does. -/
inductive Move where
  /-- The client of a visit tries once to claim its slot. -/
  | claim (visit : Nat)
  /-- The client of a visit looks once for the verdict. -/
  | collect (visit : Nat)
  /-- The client of a visit gives up on its request. -/
  | abandon (visit : Nat)
  /-- The client of a visit stops trying to claim. -/
  | turnAway (visit : Nat)
  /-- A worker looks for a pending request and copies it. -/
  | scan (worker : Worker)
  /-- A worker decides from a copy. -/
  | decide (settings : ClientAuthSettings) (worker : Worker) (copy : Copy)
  /-- A worker publishes what was decided from a copy. -/
  | publish (worker : Worker) (copy : Copy) (rejection : Option String)
  /-- A process dies. -/
  | die (pid : Pid)
  /-- Something else happens on the host. -/
  | elsewhere (desk : Desk)

namespace Traffic

/-- Nothing has happened yet. -/
def start (d : Desk) : Traffic :=
  ⟨d, fun _ => .arriving, fun _ => 0, [], [], []⟩

/-- A slot as it is now. -/
def slot (σ : Traffic) (t : SlotTable) (index : Nat) : Slot :=
  σ.desk.host.slot t index

/-- The processes that run now. -/
def processes (σ : Traffic) : Processes :=
  σ.desk.host.processes

variable (t : SlotTable) (errand : Nat → Errand)

/-- The process of a visit runs. -/
def Alive (σ : Traffic) (visit : Nat) : Prop :=
  σ.processes.isAlive (errand visit).pid = true

instance (σ : Traffic) (visit : Nat) : Decidable (σ.Alive errand visit) :=
  inferInstanceAs (Decidable (_ = true))

/-- The visit made the claim of this turn on this slot. -/
def Claimed (σ : Traffic) (visit slot turn : Nat) : Prop :=
  (errand visit).slot t = slot ∧ (σ.phase visit).turn? = some turn

/-- The visit holds a ticket for this slot that it has not used, and its process runs. -/
def Holds (σ : Traffic) (visit slot : Nat) : Prop :=
  (errand visit).slot t = slot ∧ (∃ turn, σ.phase visit = .waiting turn) ∧ σ.Alive errand visit

/-- The traffic after a move. -/
def after (σ : Traffic) : Move → Traffic
  | .claim v =>
    match ((errand v).client t).claim (errand v).connection (errand v).status σ.desk with
    | (.done (some ticket), desk) =>
      { σ with
        desk
        turns := Function.update σ.turns ticket.slot (σ.turns ticket.slot + 1)
        phase := Function.update σ.phase v (.waiting (σ.turns ticket.slot + 1)) }
    | (_, desk) => { σ with desk }
  | .collect v =>
    match ((errand v).client t).collect ((errand v).ticket t) σ.desk with
    | (.done (some verdict), desk) =>
      { σ with desk, phase := Function.update σ.phase v ((σ.phase v).read verdict) }
    | (_, desk) => { σ with desk }
  | .abandon v =>
    { σ with
      desk := (((errand v).client t).abandon ((errand v).ticket t) σ.desk).2
      phase := Function.update σ.phase v (σ.phase v).giveUp }
  | .turnAway v =>
    { σ with
      desk := (((errand v).client t).reportNoSlot σ.desk).2
      phase := Function.update σ.phase v .turnedAway }
  | .scan w =>
    match Shift.takePending ⟨w, σ.desk⟩ with
    | (.done (some (slot, request)), shift) =>
      { σ with desk := shift.desk, copies := ⟨slot, σ.turns slot, request⟩ :: σ.copies }
    | (_, shift) => { σ with desk := shift.desk }
  | .decide settings w copy =>
    match Shift.decide settings copy.request ⟨w, σ.desk⟩ with
    | (.done reason, shift) =>
      { σ with
        desk := shift.desk
        decisions := ⟨shift.worker, copy, reason.map Text.singleLine⟩ :: σ.decisions }
    | (_, shift) => { σ with desk := shift.desk }
  | .publish w copy rejection =>
    { σ with
      desk := (Shift.publish copy.slot copy.request rejection ⟨w, σ.desk⟩).2.desk
      answers :=
        if ((σ.slot t copy.slot).answer? copy.request rejection).isSome then
          ⟨⟨w, copy, rejection⟩, σ.turns copy.slot⟩ :: σ.answers
        else σ.answers }
  | .die pid =>
    { σ with
      desk := { σ.desk with
        host := { σ.desk.host with processes := σ.processes.without pid } } }
  | .elsewhere desk => { σ with desk }

/-- What happens elsewhere is recorded nowhere. -/
theorem after_elsewhere (σ : Traffic) (desk : Desk) :
    σ.after t errand (.elsewhere desk) = { σ with desk } := by
  simp only [after]

/-! ## Rules -/

/-- What anybody is able to do: a visit claims once and needs a ticket for all else,
a worker of the table decides and publishes from what some worker copied, and nobody
writes into the table without its lock, not even what a worker runs to decide. -/
def Permits (σ : Traffic) : Move → Prop
  | .claim v | .turnAway v => σ.phase v = .arriving
  | .collect v | .abandon v => ∃ turn, (σ.phase v).turn? = some turn
  | .scan w => w.table = t
  | .decide settings w copy => w.table = t ∧ copy ∈ σ.copies ∧
      Host.Rewrites t (σ.slot t) σ.desk.host
        (Shift.decide settings copy.request ⟨w, σ.desk⟩).2.desk.host
  | .publish w copy _ => w.table = t ∧ copy ∈ σ.copies
  | .die _ => True
  | .elsewhere desk => Host.Rewrites t (σ.slot t) σ.desk.host desk.host

/-- A client takes a step only while its process runs, and uses a ticket until it has
read the verdict or given up, and not after. -/
def Orderly (σ : Traffic) : Move → Prop
  | .claim v | .turnAway v => σ.Alive errand v
  | .collect v | .abandon v => σ.Alive errand v ∧ ∃ turn, σ.phase v = .waiting turn
  | _ => True

/-- A worker publishes before its slot was claimed 2^32 times more. -/
def Timely (σ : Traffic) : Move → Prop
  | .publish _ copy _ => σ.turns copy.slot < copy.turn + UInt32.size
  | _ => True

/-- A worker publishes what it decided itself. -/
def Decided (σ : Traffic) : Move → Prop
  | .publish w copy rejection => ⟨w, copy, rejection⟩ ∈ σ.decisions
  | _ => True

/-- Clients are orderly, and workers publish in time what they decided. -/
def Proper (σ : Traffic) (m : Move) : Prop :=
  σ.Orderly errand m ∧ σ.Timely m ∧ σ.Decided m

/-- The table was just made ready by the first to attach. -/
structure Fresh (d : Desk) : Prop where
  maps : d.host.Maps t
  ready : ∃ r : Region, d.host.region t = r.madeReady t.layout

/-- The traffic that moves by a rule lead to from a fresh table. -/
inductive Reaches (rule : Traffic → Move → Prop) : Traffic → Prop where
  | start {d : Desk} : Fresh t d → Reaches rule (Traffic.start d)
  | move {σ : Traffic} (m : Move) :
      Reaches rule σ → σ.Permits t m → rule σ m → Reaches rule (σ.after t errand m)

/-- A move that is permitted and by the rule. -/
def Makes (rule : Traffic → Move → Prop) (σ σ' : Traffic) : Prop :=
  ∃ m : Move, σ.Permits t m ∧ rule σ m ∧ σ' = σ.after t errand m

/-- Moves by a rule lead from one traffic to the other. -/
def Leads (rule : Traffic → Move → Prop) : Traffic → Traffic → Prop :=
  Relation.ReflTransGen (Makes t errand rule)

variable {t errand}

/-- A worker is in time when its slot was not claimed again. -/
theorem timely_of_le {σ : Traffic} {w : Worker} {copy : Copy} {rejection : Option String}
    (h : σ.turns copy.slot ≤ copy.turn) : σ.Timely (.publish w copy rejection) := by
  unfold Timely
  simp only [UInt32.size]
  omega

/-- Who follows a rule follows every weaker one. -/
theorem Reaches.mono {rule rule' : Traffic → Move → Prop} {σ : Traffic}
    (hrule : ∀ (σ : Traffic) (m : Move), rule σ m → rule' σ m)
    (h : Reaches t errand rule σ) : Reaches t errand rule' σ := by
  induction h with
  | start hfresh => exact .start hfresh
  | move m _ hm hkeeps ih => exact .move m ih hm (hrule _ m hkeeps)

theorem Reaches.orderly {σ : Traffic} (h : Reaches t errand (Proper errand) σ) :
    Reaches t errand (Orderly errand) σ :=
  h.mono fun _ _ hproper => hproper.1

/-! ## Runs of moves -/

namespace Leads

variable {rule : Traffic → Move → Prop} {σ σ' : Traffic}

theorem refl (σ : Traffic) : Leads t errand rule σ σ :=
  Relation.ReflTransGen.refl

theorem trans {σ₁ σ₂ σ₃ : Traffic} (h : Leads t errand rule σ₁ σ₂)
    (h' : Leads t errand rule σ₂ σ₃) : Leads t errand rule σ₁ σ₃ :=
  Relation.ReflTransGen.trans h h'

/-- A run goes on with a move. -/
theorem move (h : Leads t errand rule σ σ') (m : Move) (hm : σ'.Permits t m) (hrule : rule σ' m) :
    Leads t errand rule σ (σ'.after t errand m) :=
  Relation.ReflTransGen.tail h ⟨m, hm, hrule, rfl⟩

/-- A run by a rule is one by every weaker rule. -/
theorem mono {rule' : Traffic → Move → Prop}
    (hrule : ∀ (σ : Traffic) (m : Move), rule σ m → rule' σ m)
    (h : Leads t errand rule σ σ') : Leads t errand rule' σ σ' := by
  refine Relation.ReflTransGen.mono ?_ σ σ' h
  rintro σ₁ _ ⟨m, hm, hkeeps, rfl⟩
  exact ⟨m, hm, hrule σ₁ m hkeeps, rfl⟩

/-- Where a run leads to from a traffic that is reached is reached. -/
theorem reaches (h : Leads t errand rule σ σ') (hσ : Reaches t errand rule σ) :
    Reaches t errand rule σ' := by
  induction h with
  | refl => exact hσ
  | tail _ hmakes ih =>
    obtain ⟨m, hm, hkeeps, rfl⟩ := hmakes
    exact .move m ih hm hkeeps

end Leads

/-- The first to attach to a table makes it ready. -/
theorem fresh_of_settle {m : Memory} (map : Mapping) {l : Layout} (log : List LogLine)
    {opened : SlotTable} (hmap : map.segment < m.segments.length) (hl : l.Valid)
    (hnew : (m.region map.segment).header.readiness = .untouched)
    (hopened : (SlotTable.settle m map l log).result = .ok opened) {d : Desk}
    (hd : d.host.memory = (SlotTable.settle m map l log).memory) : Fresh opened d := by
  obtain ⟨log', hsettle⟩ := SlotTable.settle_of_untouched hmap hnew hl log
  rw [hsettle] at hopened hd
  cases hopened
  refine ⟨⟨?_, hl⟩, m.region map.segment, ?_⟩
  · rw [hd, Memory.length_setRegion]
    exact hmap
  · rw [Host.region, hd, Memory.region_setRegion hmap]

/-! ## A table of one slot -/

/-- The table of one slot and one worker in the first segment. -/
def lone : SlotTable :=
  ⟨0, "", ⟨1, 1⟩⟩

/-- The worker of that table. -/
def loneWorker : Worker :=
  { index := 0, table := lone }

/-- Whoever comes asks for alice at the lone table. -/
def alices (_ : Nat) : Errand :=
  ⟨7, 0, { user := "alice" }, 0⟩

/-- A desk where that table was just attached to, while these processes run. -/
def loneDesk (living : List Pid) : Desk where
  host :=
    { processes := ⟨1, living⟩
      memory := (SlotTable.attach {} "" ⟨1, 1⟩).memory }

theorem fresh_loneDesk (living : List Pid) : Fresh lone (loneDesk living) :=
  fresh_of_settle (m := { segments := [{ size := Segment.tableSize }] }) (l := ⟨1, 1⟩)
    ⟨0, Segment.tableSize, ""⟩ [] (by decide) (by decide) rfl rfl rfl

/-- The first visit has the slot of the lone table. -/
def visitClaimed : Traffic :=
  (start (loneDesk [7])).after lone alices (.claim 0)

end Traffic

end Admission
