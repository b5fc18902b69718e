import Admission.Proofs.Session.Dialog
import Admission.Proofs.Session.Draft
import Mathlib.Logic.Function.Basic

set_option autoImplicit false

/-!
# Sessions side by side

Any number of sessions work on one host, and their acts come in any order.  A ledger
is kept from the acts and their answers alone: the draft of every open transaction,
and what was written by the transactions that were committed, in that order.  The
main statement is that the ledger tells what is committed and what a session sees.
-/

namespace Admission

/-- Whether an ending is that of something done. -/
def Ending.isDone {α : Type} : Ending α → Bool
  | .done _ => true
  | .failed _ | .unwound _ => false

namespace Session

/-- Something done with a session. -/
inductive Act where
  | begin
  | put (key value : String)
  | delete (key : String)
  | beginSub
  | releaseSub
  | rollbackSub
  | commit
  | rollback
  deriving DecidableEq, Repr, Inhabited

namespace Act

/-- Carry out an act. -/
def attempt : Act → Attempt Dialog Unit
  | .begin => Dialog.begin
  | .put key value => .modify (·.write (key, some value))
  | .delete key => .modify (·.write (key, none))
  | .beginSub => Dialog.beginSub
  | .releaseSub => Dialog.releaseSub
  | .rollbackSub => Dialog.rollbackSub
  | .commit => Dialog.commit
  | .rollback => Dialog.rollback

/-- An act is in place, with this draft open if there is one, on a database that is
there or not. -/
def InPlace (draft : Option Draft) (database : Bool) : Act → Prop
  | .begin => draft = none
  | .beginSub => draft ≠ none
  | .releaseSub => ∃ d : Draft, draft = some d ∧ d.saved ≠ []
  | .commit => draft ≠ none ∧ database = true
  | _ => True

/-- What becomes of the draft: an act that fails changes none, but whatever a commit
answers, the transaction is over. -/
def draft : Act → Bool → Option Draft → Option Draft
  | .put key value, _, o => o.map (·.write (key, some value))
  | .delete key, _, o => o.map (·.write (key, none))
  | .rollbackSub, _, o => o.map Draft.rollbackSub
  | .commit, _, _ | .rollback, _, _ => none
  | .begin, true, _ => some {}
  | .beginSub, true, o => o.map Draft.beginSub
  | .releaseSub, true, o => o.map Draft.releaseSub
  | _, false, o => o

end Act

/-- The layers of a session mirror its draft; without one it has none. -/
def Mirrors (s : Session) : Option Draft → Prop
  | none => s.layers = []
  | some d => Layer.Mirror s.layers d

end Session

/-- What was written so far in the transaction that is open, if one is. -/
def Draft.written? (o : Option Draft) : List Write :=
  (o.map Draft.writes).getD []

/-- Sessions at work on one host. -/
structure Sessions where
  host : Host
  session : Nat → Session

/-- An act with its answer. -/
structure Session.Event where
  /-- Whose act it is. -/
  session : Nat
  act : Session.Act
  /-- Whether it was done. -/
  done : Bool
  deriving DecidableEq, Repr, Inhabited

namespace Sessions

/-- Sessions on these databases, none of which has done anything, on a host that has no
faults planned. -/
def fresh (h : Host) (databases : Nat → String) : Sessions :=
  ⟨{ h with faults := .none }, fun i => ⟨databases i, []⟩⟩

/-- A session and the host. -/
def dialog (σ : Sessions) (i : Nat) : Dialog :=
  ⟨σ.session i, σ.host⟩

/-- The values of a database. -/
def values (σ : Sessions) (database : String) : Values :=
  σ.host.catalog.committed? database

/-- Whether a session answers an act with done. -/
def answers (σ : Sessions) (i : Nat) (a : Session.Act) : Bool :=
  (a.attempt (σ.dialog i)).1.isDone

/-- The sessions after an act of one of them. -/
def after (σ : Sessions) (i : Nat) (a : Session.Act) : Sessions where
  host := (a.attempt (σ.dialog i)).2.host
  session := Function.update σ.session i (a.attempt (σ.dialog i)).2.session

theorem session_after_self (σ : Sessions) (i : Nat) (a : Session.Act) :
    (σ.after i a).session i = (a.attempt (σ.dialog i)).2.session :=
  Function.update_self _ _ _

theorem session_after_of_ne (σ : Sessions) (a : Session.Act) {i j : Nat} (h : j ≠ i) :
    (σ.after i a).session j = σ.session j :=
  Function.update_of_ne h _ _

/-- Carry out acts, each of one of the sessions, and note the answers. -/
def run (σ : Sessions) : List (Nat × Session.Act) → List Session.Event × Sessions
  | [] => ([], σ)
  | (i, a) :: rest =>
    let (events, last) := run (σ.after i a) rest
    (⟨i, a, σ.answers i a⟩ :: events, last)

end Sessions

/-- What is known from acts and answers. -/
structure Ledger where
  /-- The draft of every session that has a transaction open. -/
  draft : Nat → Option Draft := fun _ => none
  /-- Who committed what, the oldest first. -/
  commits : List (Nat × List Write) := []

namespace Ledger

/-- Note an event. -/
def note (l : Ledger) (e : Session.Event) : Ledger where
  draft := Function.update l.draft e.session (e.act.draft e.done (l.draft e.session))
  commits :=
    if e.act = .commit ∧ e.done = true then
      l.commits ++ [(e.session, Draft.written? (l.draft e.session))]
    else l.commits

theorem draft_note_self (l : Ledger) (e : Session.Event) :
    (l.note e).draft e.session = e.act.draft e.done (l.draft e.session) :=
  Function.update_self _ _ _

theorem draft_note_of_ne (l : Ledger) (e : Session.Event) {i : Nat} (h : i ≠ e.session) :
    (l.note e).draft i = l.draft i :=
  Function.update_of_ne h _ _

/-- The ledger of some events. -/
def of (events : List Session.Event) : Ledger :=
  events.foldl note {}

/-- What was committed to a database, transaction by transaction. -/
def committedTo (l : Ledger) (databases : Nat → String) (database : String) :
    List (List Write) :=
  (l.commits.filter fun c => databases c.1 = database).map (·.2)

theorem committedTo_note (l : Ledger) (e : Session.Event) (databases : Nat → String)
    (database : String) :
    (l.note e).committedTo databases database =
      if (e.act = .commit ∧ e.done = true) ∧ database = databases e.session then
        l.committedTo databases database ++ [Draft.written? (l.draft e.session)]
      else l.committedTo databases database := by
  unfold note committedTo
  by_cases hcommit : e.act = .commit ∧ e.done = true
  · by_cases hname : database = databases e.session
    · simp [hcommit, hname]
    · simp [hcommit, hname, Ne.symm hname]
  · rw [if_neg hcommit, if_neg fun h => hcommit h.1]

end Ledger

/-! ## One act -/

namespace Session

/-- What an act does to a session that mirrors a draft, and to the host. -/
structure Act.Sound (a : Act) (o : Option Draft) (d : Dialog) (ending : Ending Unit)
    (after : Dialog) : Prop where
  unplanned : after.host.faults = .none
  database_eq : after.session.database = d.session.database
  done_iff : ending.isDone = true ↔ a.InPlace o (d.host.catalog.exists? d.session.database)
  mirrors : after.session.Mirrors (a.draft ending.isDone o)
  committed_eq : ∀ database : String,
    after.host.catalog.committed? database =
      if (a = .commit ∧ ending.isDone = true) ∧ database = d.session.database then
        Values.written (d.host.catalog.committed? database) (Draft.written? o)
      else d.host.catalog.committed? database

/-- An act that changes at most the session. -/
theorem Act.Sound.of_session {a : Act} {o : Option Draft} {d : Dialog} {ending : Ending Unit}
    {s : Session} (hf : d.host.faults = .none) (hdatabase : s.database = d.session.database)
    (hdone : ending.isDone = true ↔ a.InPlace o (d.host.catalog.exists? d.session.database))
    (hmirrors : s.Mirrors (a.draft ending.isDone o))
    (hcommit : ¬ (a = .commit ∧ ending.isDone = true)) :
    a.Sound o d ending { d with session := s } where
  unplanned := hf
  database_eq := hdatabase
  done_iff := hdone
  mirrors := hmirrors
  committed_eq database := by rw [if_neg fun h => hcommit h.1]

section Mirrors

variable {s : Session} {o : Option Draft}

theorem Mirrors.layers_eq_nil_iff (h : s.Mirrors o) : s.layers = [] ↔ o = none := by
  cases o with
  | none => exact ⟨fun _ => rfl, fun _ => h⟩
  | some draft => exact ⟨fun hnil => absurd hnil h.ne_nil, nofun⟩

theorem Mirrors.of_open (h : s.Mirrors o) (hopen : s.layers ≠ []) :
    ∃ draft : Draft, o = some draft ∧ Layer.Mirror s.layers draft := by
  cases o with
  | none => exact absurd h hopen
  | some draft => exact ⟨draft, rfl, h⟩

/-- A session sees the writes of its draft over the committed values. -/
theorem Mirrors.get?_eq (h : s.Mirrors o) (c : Catalog) :
    s.get? c = Values.written (c.committed? s.database) (Draft.written? o) := by
  rw [Session.get?_eq]
  cases o with
  | none =>
    rw [pending, show s.layers = [] from h]
    rfl
  | some draft =>
    funext key
    exact congrArg (Option.getD · _) (h.agrees key)

theorem Mirrors.write (h : s.Mirrors o) (w : Write) : (s.write w).Mirrors (o.map (·.write w)) := by
  cases o with
  | none =>
    rw [Session.write, show s.layers = [] from h]
    exact h
  | some draft =>
    obtain ⟨top, rest, hlayers⟩ := List.exists_cons_of_ne_nil (Layer.Mirror.ne_nil h)
    rw [Session.write, hlayers]
    rw [Mirrors, hlayers] at h
    exact Layer.Mirror.write h w

/-- With one level or none there is nothing to roll back to. -/
theorem Mirrors.rollbackSub (h : s.Mirrors o) :
    s.rollbackSub.Mirrors (o.map Draft.rollbackSub) := by
  cases o with
  | none =>
    rw [Session.rollbackSub, show s.layers = [] from h]
    exact h
  | some draft =>
    unfold Session.rollbackSub
    split
    · rename_i top parent rest hlayers
      rw [Mirrors, hlayers] at h
      exact Layer.Mirror.rollbackSub h
    · rename_i hflat
      obtain ⟨top, rest, hlayers⟩ := List.exists_cons_of_ne_nil (Layer.Mirror.ne_nil h)
      cases rest with
      | cons parent rest => exact absurd hlayers (hflat top parent rest)
      | nil =>
        have hsaved := (Layer.Mirror.saved_eq_nil_iff h).mpr ⟨top, hlayers⟩
        rw [Option.map_some, Draft.rollbackSub, hsaved]
        exact h

end Mirrors

variable {d : Dialog} {o : Option Draft}

theorem Act.sound_begin (hf : d.host.faults = .none) (h : d.session.Mirrors o) :
    Act.begin.Sound o d (Act.begin.attempt d).1 (Act.begin.attempt d).2 := by
  by_cases hlayers : d.session.layers = []
  · rw [Act.attempt, Dialog.begin_of_closed hf hlayers]
    exact .of_session hf rfl (iff_of_true rfl (h.layers_eq_nil_iff.mp hlayers))
      Layer.Mirror.start nofun
  · rw [Act.attempt, Dialog.begin_of_open hf hlayers]
    exact .of_session hf rfl
      (iff_of_false nofun fun ho => hlayers (h.layers_eq_nil_iff.mpr ho)) h nofun

theorem Act.sound_beginSub (hf : d.host.faults = .none) (h : d.session.Mirrors o) :
    Act.beginSub.Sound o d (Act.beginSub.attempt d).1 (Act.beginSub.attempt d).2 := by
  by_cases hlayers : d.session.layers = []
  · rw [Act.attempt, Dialog.beginSub_of_closed hf hlayers]
    exact .of_session hf rfl
      (iff_of_false nofun fun ho => ho (h.layers_eq_nil_iff.mp hlayers)) h nofun
  · obtain ⟨draft, rfl, hmirror⟩ := h.of_open hlayers
    rw [Act.attempt, Dialog.beginSub_of_open hf hlayers]
    exact .of_session hf rfl (iff_of_true rfl nofun) hmirror.beginSub nofun

theorem Act.sound_releaseSub (hf : d.host.faults = .none) (h : d.session.Mirrors o) :
    Act.releaseSub.Sound o d (Act.releaseSub.attempt d).1 (Act.releaseSub.attempt d).2 := by
  -- With one level or none there is nothing to release.
  have hflat (hshort : d.session.layers.length ≤ 1)
      (hnone : ¬ Act.InPlace o (d.host.catalog.exists? d.session.database) .releaseSub) :
      Act.releaseSub.Sound o d (Act.releaseSub.attempt d).1 (Act.releaseSub.attempt d).2 := by
    rw [Act.attempt, Dialog.releaseSub_of_flat hf hshort]
    exact .of_session hf rfl (iff_of_false nofun hnone) h nofun
  by_cases hlayers : d.session.layers = []
  · refine hflat (by simp [hlayers]) ?_
    rintro ⟨draft, hdraft, -⟩
    rw [h.layers_eq_nil_iff.mp hlayers] at hdraft
    cases hdraft
  obtain ⟨draft, rfl, hmirror⟩ := h.of_open hlayers
  obtain ⟨top, rest, heq⟩ := List.exists_cons_of_ne_nil hlayers
  cases rest with
  | nil =>
    refine hflat (by simp [heq]) ?_
    rintro ⟨_, ⟨⟩, hsaved⟩
    exact hsaved (hmirror.saved_eq_nil_iff.mpr ⟨top, heq⟩)
  | cons parent rest =>
    have hsaved : draft.saved ≠ [] := by
      rw [ne_eq, hmirror.saved_eq_nil_iff]
      rintro ⟨layer, hlayer⟩
      rw [heq] at hlayer
      cases hlayer
    rw [Act.attempt, Dialog.releaseSub_of_nested hf heq]
    rw [heq] at hmirror
    exact .of_session hf rfl (iff_of_true rfl ⟨draft, rfl, hsaved⟩) hmirror.releaseSub nofun

theorem Act.sound_commit (hf : d.host.faults = .none) (h : d.session.Mirrors o) :
    Act.commit.Sound o d (Act.commit.attempt d).1 (Act.commit.attempt d).2 := by
  by_cases hlayers : d.session.layers = []
  · rw [Act.attempt, Dialog.commit_eq_close hf, Dialog.close_of_closed hlayers]
    exact .of_session hf rfl
      (iff_of_false nofun fun ho => ho.1 (h.layers_eq_nil_iff.mp hlayers)) hlayers nofun
  have hopen : o ≠ none := fun ho => hlayers (h.layers_eq_nil_iff.mpr ho)
  cases hdb : d.host.catalog.databases.get? d.session.database with
  | none =>
    have hmissing : d.host.catalog.exists? d.session.database = false := by
      rw [Catalog.exists?, Dict.contains, hdb]
      rfl
    rw [Act.attempt, Dialog.commit_eq_close hf, Dialog.close_of_missing hlayers hdb]
    refine .of_session hf rfl (iff_of_false nofun ?_) rfl nofun
    rintro ⟨-, hthere⟩
    rw [hmissing] at hthere
    cases hthere
  | some db =>
    have hthere : d.host.catalog.exists? d.session.database = true := by
      rw [Catalog.exists?, Dict.contains, hdb]
      rfl
    rw [Act.attempt, Dialog.commit_eq_close hf, Dialog.close_of_open hlayers hdb]
    refine ⟨hf, rfl, iff_of_true rfl ⟨hopen, hthere⟩, rfl, fun database => ?_⟩
    rw [Session.committed?_committed hdb, h.get?_eq]
    by_cases hname : database = d.session.database
    · rw [if_pos hname, if_pos ⟨⟨rfl, rfl⟩, hname⟩, hname]
    · rw [if_neg hname, if_neg fun hand => hname hand.2]

/-- Every act does to the draft and to the committed values what it should. -/
theorem Act.sound (a : Act) (hf : d.host.faults = .none) (h : d.session.Mirrors o) :
    a.Sound o d (a.attempt d).1 (a.attempt d).2 := by
  cases a with
  | begin => exact sound_begin hf h
  | put key value =>
    exact .of_session hf (write_database _ _) (iff_of_true rfl trivial) (h.write _) nofun
  | delete key =>
    exact .of_session hf (write_database _ _) (iff_of_true rfl trivial) (h.write _) nofun
  | beginSub => exact sound_beginSub hf h
  | releaseSub => exact sound_releaseSub hf h
  | rollbackSub =>
    exact .of_session hf (rollbackSub_database _) (iff_of_true rfl trivial) h.rollbackSub nofun
  | commit => exact sound_commit hf h
  | rollback => exact .of_session hf rfl (iff_of_true rfl trivial) rfl nofun

end Session

/-! ## Any run -/

namespace Sessions

variable {databases : Nat → String} {start : String → Values} {σ : Sessions} {l : Ledger}

/-- The ledger tells the state of all sessions. -/
structure Told (databases : Nat → String) (start : String → Values) (σ : Sessions)
    (l : Ledger) : Prop where
  unplanned : σ.host.faults = .none
  database_eq : ∀ i : Nat, (σ.session i).database = databases i
  mirrors : ∀ i : Nat, (σ.session i).Mirrors (l.draft i)
  values_eq : ∀ database : String,
    σ.values database = (l.committedTo databases database).foldl Values.written (start database)

theorem Told.fresh (h : Host) (databases : Nat → String) :
    Told databases h.catalog.committed? (fresh h databases) {} :=
  ⟨rfl, fun _ => rfl, fun _ => rfl, fun _ => rfl⟩

theorem Told.sound (ht : Told databases start σ l) (i : Nat) (a : Session.Act) :
    a.Sound (l.draft i) (σ.dialog i) (a.attempt (σ.dialog i)).1 (a.attempt (σ.dialog i)).2 :=
  a.sound ht.unplanned (ht.mirrors i)

/-- An act changes what is committed only if it is a commit that is done, and then by
the writes of its own transaction. -/
theorem Told.values_after (ht : Told databases start σ l) (i : Nat) (a : Session.Act)
    (database : String) :
    (σ.after i a).values database =
      if (a = .commit ∧ σ.answers i a = true) ∧ database = databases i then
        (σ.values database).written (Draft.written? (l.draft i))
      else σ.values database := by
  rw [← ht.database_eq i]
  exact (ht.sound i a).committed_eq database

/-- What the ledger tells stays true with every act that it notes. -/
theorem Told.after (ht : Told databases start σ l) (i : Nat) (a : Session.Act) :
    Told databases start (σ.after i a) (l.note ⟨i, a, σ.answers i a⟩) := by
  have hs := ht.sound i a
  -- The session that acts goes with its draft, and the others stay with theirs.
  refine ⟨hs.unplanned, fun j => ?_, fun j => ?_, fun database => ?_⟩
  · by_cases hj : j = i
    · subst hj
      rw [session_after_self, hs.database_eq]
      exact ht.database_eq j
    · rw [session_after_of_ne σ a hj]
      exact ht.database_eq j
  · by_cases hj : j = i
    · subst hj
      rw [session_after_self, Ledger.draft_note_self]
      exact hs.mirrors
    · rw [session_after_of_ne σ a hj, Ledger.draft_note_of_ne l _ hj]
      exact ht.mirrors j
  · rw [ht.values_after i a database, Ledger.committedTo_note, ht.values_eq database]
    split
    · rw [List.foldl_append]
      rfl
    · rfl

theorem Told.run (acts : List (Nat × Session.Act)) (ht : Told databases start σ l) :
    Told databases start (σ.run acts).2 ((σ.run acts).1.foldl Ledger.note l) := by
  -- The invariant is that the ledger tells the state, and every act keeps it.
  induction acts generalizing σ l with
  | nil => exact ht
  | cons first rest ih =>
    obtain ⟨i, a⟩ := first
    exact ih (ht.after i a)

/-- The sessions do what the ledger says. -/
structure Refines (databases : Nat → String) (start : String → Values) (σ : Sessions)
    (l : Ledger) : Prop where
  /-- What is committed in a database comes from the transactions that were committed to
  it, one after another, of which each sets the keys that it wrote to what it wrote last. -/
  committed : ∀ database : String,
    σ.values database = (l.committedTo databases database).foldl Values.written (start database)
  /-- A session sees its own writes, and the committed values where it has none. -/
  seen : ∀ i : Nat, (σ.session i).get? σ.host.catalog =
    (σ.values (databases i)).written (Draft.written? (l.draft i))
  /-- An act is done if it is in place, and fails otherwise. -/
  answered : ∀ (i : Nat) (a : Session.Act), σ.answers i a = true ↔
    a.InPlace (l.draft i) (σ.host.catalog.exists? (databases i))
  /-- A commit that is done sets the keys that the transaction wrote, and all other values
  stay what others made them. -/
  published : ∀ i : Nat, σ.answers i .commit = true → ∀ (database key : String),
    (σ.after i .commit).values database key =
      if database = databases i then
        (lastWrite? (Draft.written? (l.draft i)) key).getD (σ.values database key)
      else σ.values database key
  /-- All else leaves the committed values alone: other acts, and commits that fail. -/
  untouched : ∀ (i : Nat) (a : Session.Act), (a = .commit → σ.answers i a = false) →
    ∀ database : String, (σ.after i a).values database = σ.values database

theorem Told.refines (ht : Told databases start σ l) : Refines databases start σ l where
  committed := ht.values_eq
  seen i := by
    rw [(ht.mirrors i).get?_eq, ht.database_eq i]
    rfl
  answered i a := by
    rw [← ht.database_eq i]
    exact (ht.sound i a).done_iff
  published i hdone database key := by
    rw [ht.values_after]
    by_cases hname : database = databases i
    · rw [if_pos ⟨⟨rfl, hdone⟩, hname⟩, if_pos hname]
      rfl
    · rw [if_neg fun h => hname h.2, if_neg hname]
  untouched i a hfails database := by
    rw [ht.values_after, if_neg]
    rintro ⟨⟨hcommit, hdone⟩, -⟩
    rw [hfails hcommit] at hdone
    cases hdone

/-- Whatever acts any number of sessions carry out in whatever order, on whatever
databases, they do what the ledger of these acts and their answers says. -/
theorem run_refines (h : Host) (databases : Nat → String) (acts : List (Nat × Session.Act)) :
    Refines databases h.catalog.committed? ((fresh h databases).run acts).2
      (.of ((fresh h databases).run acts).1) :=
  ((Told.fresh h databases).run acts).refines

end Sessions

end Admission
