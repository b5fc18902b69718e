import Admission.Proofs.Traffic.Ownership
import Admission.Proofs.Wakeup.Bell

set_option autoImplicit false

/-!
# Sleeping at a table

Who waits at a table notes the count of its bell, looks under the lock for what it waits
for, and goes to sleep if the bell still shows the noted count.  Who changes a slot
under the lock owes some rings for it afterwards.  A vigil is the traffic at a table
together with where everybody is between the parts of his step; an act is one part.
Workers come one for each index, clients one for each visit.
-/

namespace Admission

/-- Who may sleep at a table. -/
inductive Party where
  | client (visit : Nat)
  | worker (index : Nat)
  deriving DecidableEq, Repr, Inhabited

/-- What a party noted of a bell. -/
structure Note where
  bell : Bell
  ticket : UInt32
  /-- How often the bell had been rung by then; the ticket is that number in 32 bits. -/
  rings : Nat
  deriving DecidableEq, Repr, Inhabited

/-- Where a party is. -/
inductive Station where
  | awake
  /-- It noted a count and has not looked yet. -/
  | noted (note : Note)
  /-- It looked since and did not find what it waits for. -/
  | looked (note : Note)
  | asleep (note : Note)
  /-- A worker decides a request that it copied. -/
  | busy (copy : Copy)
  /-- It has left its section, and these rings are still to come, the first one first. -/
  | owes (bells : List Bell)
  deriving DecidableEq, Repr, Inhabited

/-- Whether a ring wakes all who sleep at the bell, or one of them. -/
def Bell.wakesAll : Bell → Bool
  | .freed _ => true
  | .work _ | .answered _ => false

namespace Station

/-- The note of who is about to sleep or does. -/
def note? : Station → Option Note
  | .noted note | .looked note | .asleep note => some note
  | .awake | .busy _ | .owes _ => none

theorem awake_ne_owes (bells : List Bell) : awake ≠ .owes bells := by
  intro h
  cases h

/-- Who is about to sleep or does owes nothing. -/
theorem ne_owes {station : Station} {n : Note} (h : station.note? = some n) (bells : List Bell) :
    station ≠ .owes bells := by
  rintro rfl
  cases h

/-- What a look in vain makes of who noted a count. -/
def look : Station → Station
  | .noted note => .looked note
  | station => station

/-- What a ring makes of a party, which may be the one that it wakes. -/
def hear (station : Station) (b : Bell) (picked : Bool) : Station :=
  match station with
  | .asleep note => if note.bell = b ∧ (b.wakesAll || picked) then .awake else .asleep note
  | station => station

/-- Who still owes these rings. -/
def owing : List Bell → Station
  | [] => .awake
  | b :: rest => .owes (b :: rest)

end Station

/-- The traffic at a table, with everybody's station and the count of all rings. -/
structure Vigil where
  traffic : Traffic
  station : Party → Station
  rings : Bell → Nat

/-- One part of what a party does. -/
inductive Act where
  /-- Note the count of a bell. -/
  | note (party : Party) (bell : Bell)
  /-- Try to claim, under the lock; a claim that is granted rings for the worker there. -/
  | claim (visit : Nat) (woken : Option Party)
  /-- Look for the verdict, under the lock. -/
  | collect (visit : Nat)
  /-- Give up on a request, under the lock. -/
  | abandon (visit : Nat)
  /-- Stop trying to claim. -/
  | turnAway (visit : Nat)
  /-- Scan for a pending request, under the lock. -/
  | scan (worker : Worker)
  /-- Put a verdict in, under the lock. -/
  | publish (worker : Worker) (copy : Copy) (rejection : Option String)
  /-- Go to sleep, unless the bell was rung since. -/
  | sleep (party : Party)
  /-- Wake up by oneself. -/
  | wake (party : Party)
  /-- Ring the next bell that one owes. -/
  | ring (party : Party) (woken : Option Party)
  /-- A process dies. -/
  | die (pid : Pid)
  /-- A worker is replaced by a new one. -/
  | replace (index : Nat)
  /-- Something else happens on the host. -/
  | elsewhere (desk : Desk)

namespace Vigil

variable (t : SlotTable) (errand : Nat → Errand)

/-- Nothing has happened yet; rings are counted on from what the bells show. -/
def start (d : Desk) : Vigil :=
  ⟨Traffic.start d, fun _ => .awake, fun b => (d.host.bell t b).sent.toNat⟩

/-- A slot as it is now. -/
def slot (ω : Vigil) (s : Nat) : Slot :=
  ω.traffic.slot t s

/-- The signal behind a bell as it is now. -/
def bell (ω : Vigil) (b : Bell) : Signal :=
  ω.traffic.desk.host.bell t b

/-- A party changes its station, and the traffic moves. -/
def turn (ω : Vigil) (p : Party) (station : Station) (σ : Traffic) : Vigil :=
  { ω with traffic := σ, station := Function.update ω.station p station }

/-- A bell is rung, and who sleeps there and is to be woken wakes up. -/
def rung (ω : Vigil) (b : Bell) (woken : Option Party) : Vigil where
  traffic := ω.traffic.after t errand (.elsewhere (ω.traffic.desk.rung t b))
  station q := (ω.station q).hear b (woken = some q)
  rings := Function.update ω.rings b (ω.rings b + 1)

/-- The vigil after an act. -/
def after (ω : Vigil) : Act → Vigil
  | .note p b => ω.turn p (.noted ⟨b, (ω.bell t b).prepare, ω.rings b⟩) ω.traffic
  | .claim v woken =>
    let σ := ω.traffic.after t errand (.claim v)
    match (((errand v).client t).claim (errand v).connection (errand v).status
        ω.traffic.desk).1 with
    | .done (some ticket) =>
      (ω.rung t errand (.work (t.layout.workerForSlot ticket.slot)) woken).turn (.client v) .awake σ
    | _ => ω.turn (.client v) (ω.station (.client v)).look σ
  | .collect v =>
    -- The traffic records the whole step, and its table is as the section alone leaves it.
    let found := ((errand v).client t).look ((errand v).ticket t) ω.traffic.desk
    let σ := (ω.traffic.after t errand (.collect v)).after t errand (.elsewhere found.2)
    match found.1 with
    | .done (some _) => ω.turn (.client v) (.owes [.freed ((errand v).slot t)]) σ
    | _ => ω.turn (.client v) (ω.station (.client v)).look σ
  | .abandon v =>
    let left := ((errand v).client t).letGo ((errand v).ticket t) ω.traffic.desk
    ω.turn (.client v) (.owes [.freed ((errand v).slot t)])
      ((ω.traffic.after t errand (.abandon v)).after t errand (.elsewhere left.2))
  | .turnAway v => ω.turn (.client v) .awake (ω.traffic.after t errand (.turnAway v))
  | .scan w =>
    let σ := ω.traffic.after t errand (.scan w)
    match (Shift.takePending ⟨w, ω.traffic.desk⟩).1 with
    | .done (some (slot, request)) =>
      ω.turn (.worker w.index) (.busy ⟨slot, ω.traffic.turns slot, request⟩) σ
    | _ => ω.turn (.worker w.index) (ω.station (.worker w.index)).look σ
  | .publish w copy rejection =>
    let put := Shift.putIn w copy.slot copy.request rejection ⟨w, ω.traffic.desk⟩
    let σ := ω.traffic.after t errand (.publish w copy rejection)
    match put.1 with
    | .done true =>
      ω.turn (.worker w.index) (.owes [.answered copy.slot, .freed copy.slot])
        (σ.after t errand (.elsewhere put.2.desk))
    | _ => ω.turn (.worker w.index) .awake σ
  | .sleep p =>
    match ω.station p with
    | .looked note =>
      ω.turn p (if (ω.bell t note.bell).sleeps note.ticket then .asleep note else .awake) ω.traffic
    | _ => ω
  | .wake p => ω.turn p .awake ω.traffic
  | .ring p woken =>
    match ω.station p with
    | .owes (b :: rest) =>
      (ω.rung t errand b woken).turn p (.owing rest) (ω.rung t errand b woken).traffic
    | _ => ω
  | .die pid =>
    { ω with
      traffic := ω.traffic.after t errand (.die pid)
      station := fun p =>
        match p with
        | .client v => if (errand v).pid = pid then .awake else ω.station p
        | .worker _ => ω.station p }
  | .replace i => ω.turn (.worker i) .awake ω.traffic
  | .elsewhere desk => { ω with traffic := ω.traffic.after t errand (.elsewhere desk) }

/-- A party rings all that it owes, and nobody disturbs it. -/
def settled (ω : Vigil) (p : Party) : Vigil :=
  match ω.station p with
  | .owes bells => bells.foldl (fun ω _ => ω.after t errand (.ring p none)) ω
  | _ => ω

theorem after_note (ω : Vigil) (p : Party) (b : Bell) :
    ω.after t errand (.note p b) =
      ω.turn p (.noted ⟨b, (ω.bell t b).prepare, ω.rings b⟩) ω.traffic := by
  simp only [after]

/-! ## Rules -/

/-- The party waits for what the bell tells, and it runs. -/
def Listens (ω : Vigil) : Party → Bell → Prop
  | .client v, b => ω.traffic.Alive errand v ∧
      (ω.traffic.phase v = .arriving ∧ b = .freed ((errand v).slot t) ∨
        (∃ turn, ω.traffic.phase v = .waiting turn) ∧ b = .answered ((errand v).slot t))
  | .worker i, b => i < t.layout.workers ∧ b = .work i

/-- The party is not asleep and owes nothing. -/
def Free (ω : Vigil) (p : Party) : Prop :=
  ω.station p = .awake ∨ (∃ note, ω.station p = .noted note) ∨ ∃ note, ω.station p = .looked note

/-- The party sleeps at the bell. -/
def SleepsAt (ω : Vigil) (p : Party) (b : Bell) : Prop :=
  ∃ note, ω.station p = .asleep note ∧ note.bell = b

/-- The party still has to ring the bell. -/
def Owes (ω : Vigil) (p : Party) (b : Bell) : Prop :=
  ∃ bells, ω.station p = .owes bells ∧ b ∈ bells

/-- A ring that wakes one wakes one who sleeps at the bell, if anybody does. -/
def Picks (ω : Vigil) (b : Bell) : Option Party → Prop
  | some p => ω.SleepsAt p b
  | none => b.wakesAll = true ∨ ∀ p : Party, ¬ ω.SleepsAt p b

/-- Who may do what: everybody takes the parts of his step in their order, clients stop
when their process dies and use a ticket once, and between a note and the sleep the bell
is rung less than 2^32 times.  Nobody dies or is replaced who still owes a ring. -/
def Permits (ω : Vigil) : Act → Prop
  | .note p b => ω.station p = .awake ∧ ω.Listens t errand p b
  | .claim v woken => (∃ note, ω.station (.client v) = .noted note) ∧ ω.traffic.Alive errand v ∧
      ω.traffic.phase v = .arriving ∧
      ω.Picks (.work (t.layout.workerForSlot ((errand v).slot t))) woken
  | .collect v => (∃ note, ω.station (.client v) = .noted note) ∧ ω.traffic.Alive errand v ∧
      ∃ turn, ω.traffic.phase v = .waiting turn
  | .abandon v => ω.Free (.client v) ∧ ω.traffic.Alive errand v ∧
      ∃ turn, ω.traffic.phase v = .waiting turn
  | .turnAway v => ω.Free (.client v) ∧ ω.traffic.Alive errand v ∧ ω.traffic.phase v = .arriving
  | .scan w => w.table = t ∧ w.index < t.layout.workers ∧
      ∃ note, ω.station (.worker w.index) = .noted note
  | .publish w copy _ => w.table = t ∧ ω.station (.worker w.index) = .busy copy
  | .sleep p => ∃ note, ω.station p = .looked note ∧
      ω.rings note.bell < note.rings + UInt32.size
  | .wake p => ∃ note, ω.station p = .asleep note
  | .ring p woken => ∃ b rest, ω.station p = .owes (b :: rest) ∧ ω.Picks b woken
  | .die pid => ∀ v : Nat, (errand v).pid = pid → ∀ bells, ω.station (.client v) ≠ .owes bells
  | .replace i => ∀ bells, ω.station (.worker i) ≠ .owes bells
  | .elsewhere desk => Host.Rewrites t (ω.slot t) ω.traffic.desk.host desk.host ∧
      ∀ b : Bell, desk.host.bell t b = ω.bell t b

/-- The vigils that acts lead to from a fresh table. -/
inductive Reaches : Vigil → Prop where
  | start {d : Desk} (h : Traffic.Fresh t d) : Reaches (start t d)
  | act {ω : Vigil} (a : Act) (h : Reaches ω) (ha : ω.Permits t errand a) :
      Reaches (ω.after t errand a)

end Vigil

end Admission
