import Admission.Proofs.Password.Backout
import Admission.Proofs.Procedure.Calls

set_option autoImplicit false

/-!
# How a password is accepted, and how it is refused

A check accepts a password only where nothing asks for it to be checked, or where all
procedures were called and none objected; no error and no panic leads there, whichever
step it comes from.  Where a procedure objects or goes wrong, what it said is what the
caller is told, and no procedure behind it is called.
-/

namespace Admission

open Attempt

/-! ## A run that comes to acceptance -/

namespace Dialog

variable {d d' : Dialog}

/-- A run in isolation finds acceptance where the calls do and their level is released. -/
theorem leave_eq_accepted_iff {ending : Ending (Option String)} :
    leave ending d = (.done .accepted, d') ↔
      ending = .done none ∧ releaseSub d = (.done (), d') := by
  cases ending with
  | failed e => simp [leave, rollbackSub]
  | unwound p => simp [leave, rollbackSub]
  | done rejection =>
    rw [leave, bind_eq_done_iff]
    constructor
    · rintro ⟨_, d₁, hrelease, hpure⟩
      cases rejection <;> cases hpure
      exact ⟨rfl, hrelease⟩
    · rintro ⟨⟨⟩, hrelease⟩
      exact ⟨(), d', hrelease, rfl⟩

end Dialog

/-- The error that a caller is told for a call that objects or goes wrong. -/
def Ending.refusal? : Ending Output → Option BackendError
  | .done o => o.objection?.map fun reason => ⟨Text.singleLine reason, none⟩
  | .failed e => some ⟨Text.singleLine e.message, e.hint⟩
  | .unwound p => some ⟨Text.singleLine (BackendError.ofPanic p).message, none⟩

namespace PasswordCheck

open Dialog

variable {s : PasscheckSettings} {r : PasswordRequest} {d begun : Dialog} {h : Host}
  {names called : List QualifiedName}

/-! ## In the session of the caller -/

/-- The catalog asks for these procedures, and a level is open for them. -/
structure Opens (s : PasscheckSettings) (d : Dialog) (names : List QualifiedName)
    (begun : Dialog) : Prop where
  steps : ∃ looked : Dialog, evaluate .passcheck s.mode d = (.done (.run names), looked) ∧
    beginSub looked = (.done (), begun)

/-- Nothing stands in the way of the password. -/
inductive Permits (s : PasscheckSettings) (r : PasswordRequest) (d : Dialog) : Prop where
  /-- The check is switched off. -/
  | off (hmode : s.mode = .off)
  /-- There is nothing to check with, and no insistence on it. -/
  | bare {db : Database} {looked : Dialog} {reason : AcceptReason} (hmode : s.mode = .on)
      (hdb : d.host.catalog.databases.get? d.session.database = some db)
      (hbare : db.catalogInstalled = false ∨ db.entriesFor .passcheck = [])
      (hlook : evaluate .passcheck s.mode d = (.done (.accept reason), looked))
  /-- All registered procedures were called, in the order they are registered in, none had an
  objection, and their level was released. -/
  | unopposed {db : Database} {names : List QualifiedName} {begun released : Dialog}
      (hdb : d.host.catalog.databases.get? d.session.database = some db)
      (hnames : names.map (·.key) = db.entriesFor .passcheck) (hopens : Opens s d names begun)
      (hsilent : ∀ ending ∈ (callEach (.passcheck r) names begun).1,
        ∃ o : Output, ending = .done o ∧ o.objection? = none)
      (hrelease : releaseSub (callEach (.passcheck r) names begun).2 = (.done (), released))

/-- Behind the opening of the level come the calls, its closing and what the caller is told. -/
theorem check_of_opens (hopens : Opens s d names begun) :
    check s r d =
      (leave (callInOrder (.passcheck r) names begun).1 >>= conclude r)
        (callInOrder (.passcheck r) names begun).2 := by
  obtain ⟨looked, hlook, hbegin⟩ := hopens.steps
  have hrun : runIsolated names (.passcheck r) looked =
      leave (callInOrder (.passcheck r) names begun).1
        (callInOrder (.passcheck r) names begun).2 := by
    rw [runIsolated_eq, bind_of_done hbegin]
    rfl
  rw [check_eq_follow, bind_of_done hlook, follow, bind_apply, hrun]
  rfl

/-- A password is accepted exactly where nothing stands in its way. -/
theorem check_accepts_iff (s : PasscheckSettings) (r : PasswordRequest) (d : Dialog) :
    (check s r d).1 = .done () ↔ Permits s r d := by
  constructor
  · intro hdone
    by_cases hmode : s.mode = .off
    · exact .off hmode
    have hcheck : check s r d = (.done (), (check s r d).2) := Prod.ext hdone rfl
    rw [check_eq_follow, bind_eq_done_iff] at hcheck
    obtain ⟨asked, looked, hlook, hfollow⟩ := hcheck
    obtain ⟨db, hdb, hfinds⟩ := finds_of_evaluate hmode hlook
    cases hfinds with
    | accept hon hbare => exact .bare hon hdb hbare hlook
    | reject _ _ => cases hfollow
    | @run names hnames _ =>
      rw [follow, bind_eq_done_iff] at hfollow
      obtain ⟨o, left, hrun, htold⟩ := hfollow
      rw [runIsolated_eq, bind_eq_done_iff] at hrun
      obtain ⟨_, begun, hbegin, hleave⟩ := hrun
      have haccepted : o = .accepted := by
        cases o with
        | accepted => rfl
        | rejected reason => cases htold
        | raised e => cases htold
      subst haccepted
      obtain ⟨hnone, hrelease⟩ := leave_eq_accepted_iff.mp hleave
      -- The calls ended with no objection, so all procedures were called and none had one.
      obtain ⟨called, hheard, houtcome, hleft⟩ := exists_heardOut (.passcheck r) names begun
      have hverdict : lastVerdict (callEach (.passcheck r) called begun).1 = .accepted := by
        rw [← houtcome, hnone]
        rfl
      obtain ⟨rfl, hsilent⟩ := hheard.all_of_accepted hverdict
      refine .unopposed hdb hnames ⟨looked, hlook, hbegin⟩ ?_ (hleft ▸ hrelease)
      intro ending hmem
      exact Ending.verdict_eq_accepted_iff.mp (hsilent ending hmem)
  · intro hpermits
    cases hpermits with
    | off hmode =>
      rw [check_eq_follow, evaluate, if_pos hmode]
      rfl
    | bare hmode hdb hbare hlook =>
      rw [check_eq_follow, bind_of_done hlook]
      rfl
    | unopposed hdb hnames hopens hsilent hrelease =>
      have haccepted := fun ending hmem =>
        Ending.verdict_eq_accepted_iff.mpr (hsilent ending hmem)
      have hcalled := callInOrder_of_silent haccepted
      have hleave := leave_eq_accepted_iff.mpr ⟨rfl, hrelease⟩
      rw [check_of_opens hopens, hcalled, bind_of_done hleave]
      rfl

/-- The procedures of a check are heard out, and what the last of them said is what the
caller is told. -/
structure HearsOut (s : PasscheckSettings) (r : PasswordRequest) (d : Dialog)
    (names called : List QualifiedName) (begun : Dialog) : Prop where
  registered : ∀ db : Database, d.host.catalog.databases.get? d.session.database = some db →
    names.map (·.key) = db.entriesFor .passcheck
  heard : HeardOut names called (callEach (.passcheck r) called begun).1
  /-- After these calls only the level is closed and the outcome logged. -/
  left_eq : ∃ lines : List LogLine,
    (check s r d).2 = (releaseSub (callEach (.passcheck r) called begun).2).2.say lines ∨
      (check s r d).2 = (rollbackSub (callEach (.passcheck r) called begun).2).2.say lines
  /-- Of the ways to close the level a release can fail, behind a call that returned. -/
  refused : ∀ ending ∈ (callEach (.passcheck r) called begun).1.getLast?,
    ∀ e ∈ ending.refusal?,
      ((∃ o : Output, ending = .done o) →
        (releaseSub (callEach (.passcheck r) called begun).2).1 = .done ()) →
      (check s r d).1 = .failed e

/-- How a check goes on behind its calls, by what they come to. -/
theorem check_of_outcome (hopens : Opens s d names begun) {left : Dialog}
    (hleft : (callInOrder (.passcheck r) names begun).2 = left) :
    match (callInOrder (.passcheck r) names begun).1.outcome with
    | .accepted => ∃ lines : List LogLine, (check s r d).2 = (releaseSub left).2.say lines
    | .rejected reason =>
      (∃ lines : List LogLine, (check s r d).2 = (releaseSub left).2.say lines) ∧
        ((releaseSub left).1 = .done () →
          (check s r d).1 = .failed ⟨Text.singleLine reason, none⟩)
    | .raised e =>
      (∃ lines : List LogLine, (check s r d).2 = (rollbackSub left).2.say lines) ∧
        (check s r d).1 = .failed ⟨Text.singleLine e.message, e.hint⟩ := by
  rw [check_of_opens hopens, hleft]
  generalize (callInOrder (.passcheck r) names begun).1 = ending
  cases ending with
  | failed e => exact ⟨⟨_, rfl⟩, rfl⟩
  | unwound p => exact ⟨⟨_, rfl⟩, rfl⟩
  | done rejection =>
    cases rejection with
    | none =>
      simp only [Ending.outcome, leave, bind_apply]
      generalize releaseSub left = released
      obtain ⟨ending, after⟩ := released
      cases ending with
      | done _ => exact ⟨_, rfl⟩
      | failed e => exact ⟨[], by simp⟩
      | unwound p => exact ⟨[], by simp⟩
    | some reason =>
      simp only [Ending.outcome, leave, bind_apply]
      generalize releaseSub left = released
      obtain ⟨ending, after⟩ := released
      cases ending with
      | done _ => exact ⟨⟨_, rfl⟩, fun _ => rfl⟩
      | failed e => exact ⟨⟨[], by simp⟩, by rintro ⟨⟩⟩
      | unwound p => exact ⟨⟨[], by simp⟩, by rintro ⟨⟩⟩

theorem check_hearsOut (r : PasswordRequest) (hopens : Opens s d names begun) :
    ∃ called : List QualifiedName, HearsOut s r d names called begun := by
  obtain ⟨called, hheard, houtcome, hleft⟩ := exists_heardOut (.passcheck r) names begun
  have hcheck := check_of_outcome (r := r) hopens hleft
  rw [houtcome] at hcheck
  refine ⟨called, ?_, hheard, ?_, ?_⟩
  · intro db hdb
    obtain ⟨looked, hlook, -⟩ := hopens.steps
    exact entries_of_run hlook hdb
  · revert hcheck
    cases lastVerdict (callEach (.passcheck r) called begun).1 with
    | accepted => exact fun ⟨lines, hcheck⟩ => ⟨lines, .inl hcheck⟩
    | rejected reason => exact fun ⟨⟨lines, hcheck⟩, _⟩ => ⟨lines, .inl hcheck⟩
    | raised e => exact fun ⟨⟨lines, hcheck⟩, _⟩ => ⟨lines, .inr hcheck⟩
  · intro ending hlast e hrefusal hreleased
    have hverdict : lastVerdict (callEach (.passcheck r) called begun).1 = ending.verdict := by
      rw [lastVerdict, Option.mem_def.mp hlast]
      rfl
    rw [hverdict] at hcheck
    cases ending with
    | failed error =>
      cases hrefusal
      exact hcheck.2
    | unwound p =>
      cases hrefusal
      exact hcheck.2
    | done o =>
      obtain ⟨reason, hreason, rfl⟩ := Option.map_eq_some_iff.mp hrefusal
      simp only [Ending.verdict, hreason] at hcheck
      exact hcheck.2 (hreleased ⟨o, rfl⟩)

/-! ## In a session of its own -/

/-- The configured database is named and there, and a transaction is open in a session that
was connected to it. -/
structure Opened (s : PasscheckSettings) (h : Host) (d : Dialog) : Prop where
  named : s.database ≠ ""
  existing : h.catalog.exists? s.database = true
  session_eq : d.session = ⟨s.database, [[]]⟩
  steps : ∃ (h₁ h₂ : Host) (session : Session),
    Host.databaseExists s.database h = (.done true, h₁) ∧
      Host.connect s.database h₁ = (.done session, h₂) ∧
      Dialog.begin ⟨session, h₂⟩ = (.done (), d)

theorem exists?_of_databaseExists {name : String} {found : Bool} {h' : Host}
    (hrun : Host.databaseExists name h = (.done found, h')) : h.catalog.exists? name = found := by
  rw [Host.databaseExists, bind_eq_done_iff] at hrun
  obtain ⟨_, struck, hstrike, hfound⟩ := hrun
  have hcatalog : (Host.strike .databaseExists h).2.catalog = h.catalog := rfl
  rw [hstrike] at hcatalog
  cases hfound
  rw [← hcatalog]

theorem inquiry?_of_opened (hmode : s.mode ≠ .off) (hopened : Opened s h d) :
    inquiry? s h = some d := by
  obtain ⟨h₁, h₂, session, hexists, hconnect, hbegin⟩ := hopened.steps
  have hnot : ¬ (s.mode = .off ∨ s.database = "") := not_or.mpr ⟨hmode, hopened.named⟩
  simp only [inquiry?, if_neg hnot, hexists, hconnect, hbegin]

/-- What is done in a session of its own is done in a transaction there. -/
theorem opened_of_done {body : Attempt Dialog Unit} (hmode : s.mode ≠ .off)
    (hdone : (via s body h).1 = .done ()) : ∃ d : Dialog, Opened s h d := by
  have hrun : via s body h = (.done (), (via s body h).2) := Prod.ext hdone rfl
  generalize (via s body h).2 = after at hrun
  rw [via, if_neg hmode] at hrun
  split at hrun
  · cases hrun
  rename_i hnamed
  rw [bind_eq_done_iff] at hrun
  obtain ⟨found, h₁, hexists, hrun⟩ := hrun
  cases found with
  | false => cases hrun
  | true =>
    replace hrun := bind_eq_done_iff.mp hrun
    obtain ⟨session, h₂, hconnect, hrun⟩ := hrun
    rw [mapError_eq_done_iff] at hconnect
    obtain rfl := Host.connect_session s.database h₁ session (congrArg Prod.fst hconnect)
    rw [settled_bind] at hrun
    split at hrun
    · rename_i d hbegin
      exact ⟨d, hnamed, exists?_of_databaseExists hexists, begin_session hbegin, h₁, h₂, _,
        hexists, hconnect, hbegin⟩
    · cases hrun
    · cases hrun

/-- After a check that returned, the commit decides, and otherwise the check does. -/
theorem afterwards_settle (body : Attempt Dialog Unit) (d : Dialog) :
    (afterwards (body.settle d)).1 =
      match (body d).1 with
      | .unwound p => .unwound p
      | ending =>
        match (Dialog.commit (body d).2).1 with
        | .done () => ending
        | .failed e => .failed e
        | .unwound p => .unwound p := by
  unfold settle
  generalize body d = checked
  obtain ⟨ending, d'⟩ := checked
  cases ending with
  | unwound p => rfl
  | failed e =>
    simp only [afterwards, wrapUp, bind_apply]
    generalize Dialog.commit d' = committed
    obtain ⟨ending, after⟩ := committed
    cases ending <;> rfl
  | done _ =>
    simp only [afterwards, wrapUp, bind_apply]
    generalize Dialog.commit d' = committed
    obtain ⟨ending, after⟩ := committed
    cases ending <;> rfl

theorem afterwards_settle_eq_done_iff {body : Attempt Dialog Unit} {d : Dialog} :
    (afterwards (body.settle d)).1 = .done () ↔
      (body d).1 = .done () ∧ (Dialog.commit (body d).2).1 = .done () := by
  rw [afterwards_settle]
  cases (body d).1 with
  | unwound p => simp
  | failed e => cases (Dialog.commit (body d).2).1 <;> simp
  | done _ => cases (Dialog.commit (body d).2).1 <;> simp

/-- In a session of its own a password is accepted exactly where the check is switched off, or
where the check accepts it in its transaction and that is committed. -/
theorem checkVia_accepts_iff (s : PasscheckSettings) (r : PasswordRequest) (h : Host) :
    (checkVia s r h).1 = .done () ↔
      s.mode = .off ∨ ∃ d : Dialog, Opened s h d ∧ Permits s r d ∧
        (Dialog.commit (check s r d).2).1 = .done () := by
  by_cases hmode : s.mode = .off
  · rw [checkVia, if_pos hmode]
    simp [hmode]
  have hopens {d : Dialog} (hopened : Opened s h d) :
      (checkVia s r h).1 = (afterwards ((check s r).settle d)).1 := by
    rw [checkVia_eq_via, via_eq, inquiry?_of_opened hmode hopened]
  constructor
  · intro hdone
    obtain ⟨d, hopened⟩ := opened_of_done hmode hdone
    rw [hopens hopened, afterwards_settle_eq_done_iff, check_accepts_iff] at hdone
    exact .inr ⟨d, hopened, hdone⟩
  · intro haccepts
    rcases haccepts with hoff | ⟨d, hopened, hpermits⟩
    · exact absurd hoff hmode
    · rw [hopens hopened, afterwards_settle_eq_done_iff, check_accepts_iff]
      exact hpermits

/-- What a check refuses is refused, if the commit behind it is done. -/
theorem checkVia_refuses {e : BackendError} (hopened : Opened s h d)
    (hfailed : (check s r d).1 = .failed e)
    (hcommit : (Dialog.commit (check s r d).2).1 = .done ()) :
    (checkVia s r h).1 = .failed e := by
  have hmode : s.mode ≠ .off := by
    intro hoff
    rw [(check_accepts_iff s r d).mpr (.off hoff)] at hfailed
    cases hfailed
  rw [checkVia_eq_via, via_eq, inquiry?_of_opened hmode hopened]
  dsimp only
  rw [afterwards_settle, hfailed, hcommit]

/-! ## Both ways -/

/-- No error and no panic gets a password accepted, and what an objection says is told. -/
structure Scrupulous (s : PasscheckSettings) (r : PasswordRequest) : Prop where
  accepts_iff : ∀ d : Dialog, (check s r d).1 = .done () ↔ Permits s r d
  hearsOut : ∀ {d begun : Dialog} {names : List QualifiedName}, Opens s d names begun →
    ∃ called : List QualifiedName, HearsOut s r d names called begun
  acceptsVia_iff : ∀ h : Host, (checkVia s r h).1 = .done () ↔
    s.mode = .off ∨ ∃ d : Dialog, Opened s h d ∧ Permits s r d ∧
      (Dialog.commit (check s r d).2).1 = .done ()
  refusesVia : ∀ {h : Host} {d : Dialog} {e : BackendError}, Opened s h d →
    (check s r d).1 = .failed e → (Dialog.commit (check s r d).2).1 = .done () →
      (checkVia s r h).1 = .failed e

/-- Whatever is registered, whatever it does and whatever fails, a password is accepted only
where nothing stands in its way, and an objection is told as it was made. -/
theorem scrupulous (s : PasscheckSettings) (r : PasswordRequest) : Scrupulous s r where
  accepts_iff := check_accepts_iff s r
  hearsOut := check_hearsOut r
  acceptsVia_iff := checkVia_accepts_iff s r
  refusesVia := checkVia_refuses

/-- Bob's password is accepted where the one procedure there is was heard, and refused with
the error of its call where that fails. -/
theorem scrupulous_noting :
    Permits notingSettings bobSets (noting .connect) ∧
      (∃ (begun : Dialog) (called : List QualifiedName),
        HearsOut notingSettings bobSets (noting .call) [noteName] called begun) ∧
      (checkVia notingSettings bobSets (noting .call).host).1 = .failed ⟨"injected", none⟩ := by
  refine ⟨?_, ?_, ?_⟩
  · exact ((scrupulous notingSettings bobSets).accepts_iff (noting .connect)).mp rfl
  · exact ⟨_, (scrupulous notingSettings bobSets).hearsOut ⟨_, rfl, rfl⟩⟩
  · have hopened : Opened notingSettings (noting .call).host _ :=
      ⟨by decide, by decide +kernel, rfl, _, _, _, rfl, rfl, rfl⟩
    exact (scrupulous notingSettings bobSets).refusesVia hopened rfl rfl

end PasswordCheck

end Admission
