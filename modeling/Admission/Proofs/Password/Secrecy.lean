import Admission.Proofs.Password.Lines

set_option autoImplicit false

/-!
# What the log tells of a password

Two requests that differ only in the password look the same to whoever debugs them.
When their procedures end in the same kinds of results, the checks log the same lines
exactly if the errors and the panics say the same: nothing of a password is logged where
no procedure raises or panics, but what one raises is logged as it is.
-/

namespace Admission.PasswordCheck

/-- Two lots of lines are the same exactly if the errors and the panics behind them say the
same, and so they are where no procedure raises or panics. -/
structure TellsTrouble (kinds : List ResultKind) (lines lines' : List LogLine)
    (trouble trouble' : Option String) : Prop where
  eq_iff : lines = lines' ↔ trouble = trouble'
  eq_of_calm : .raise ∉ kinds → .panic ∉ kinds → lines = lines'

variable {s : PasscheckSettings} {r r' : PasswordRequest}

theorem tellsTrouble_check (huser : r'.user = r.user) {d : Dialog}
    (hkinds : kinds s r d = kinds s r' d) :
    TellsTrouble (kinds s r d) (reported s r d) (reported s r' d) (trouble? s r d)
      (trouble? s r' d) := by
  have hiff := reported_eq_iff huser hkinds
  refine ⟨hiff, fun hraise hpanic => hiff.mpr ?_⟩
  rw [trouble?_of_kinds hraise hpanic]
  rw [hkinds] at hraise hpanic
  rw [trouble?_of_kinds hraise hpanic]

theorem tellsTrouble_checkVia (huser : r'.user = r.user) {h : Host}
    (hkinds : kindsVia s r h = kindsVia s r' h) :
    TellsTrouble (kindsVia s r h) (reportedVia s r h) (reportedVia s r' h) (troubleVia? s r h)
      (troubleVia? s r' h) := by
  unfold kindsVia at hkinds ⊢
  unfold reportedVia troubleVia?
  cases hd : inquiry? s h with
  | none => exact ⟨⟨fun _ => rfl, fun _ => rfl⟩, fun _ _ => rfl⟩
  | some d =>
    rw [hd] at hkinds
    exact tellsTrouble_check huser hkinds

/-- Of two requests that differ only in the password, the debugging output is the same; and
where their procedures end in the same kinds of results, the lines that the checks log are
the same exactly if the errors and the panics say the same.  These lines are all that a
check logs beside its procedures. -/
theorem log_iff_trouble (s : PasscheckSettings)
    (hsame : r' = { r with password := r'.password }) :
    r'.debug = r.debug ∧
      (∀ d : Dialog, kinds s r d = kinds s r' d →
        TellsTrouble (kinds s r d) (reported s r d) (reported s r' d) (trouble? s r d)
          (trouble? s r' d)) ∧
      (∀ h : Host, kindsVia s r h = kindsVia s r' h →
        TellsTrouble (kindsVia s r h) (reportedVia s r h) (reportedVia s r' h)
          (troubleVia? s r h) (troubleVia? s r' h)) ∧
      (∀ (q : PasswordRequest) (d : Dialog),
        check s q d = ((unlogged s q d).1, (unlogged s q d).2.say (reported s q d)) ∧
          (d.Transactional → (check s q d).2.host.log = d.host.log ++ reported s q d)) ∧
      (∀ (q : PasswordRequest) (h : Host),
        checkVia s q h = ((via s (unlogged s q) h).1,
          (via s (unlogged s q) h).2.say (reportedVia s q h)) ∧
          (h.catalog.TransactionalIn s.database →
            (checkVia s q h).2.log = h.log ++ reportedVia s q h)) := by
  have huser : r'.user = r.user := by rw [hsame]
  refine ⟨by rw [hsame]; rfl, fun d => tellsTrouble_check huser,
    fun h => tellsTrouble_checkVia huser, fun q d => ⟨check_eq s q d, fun ht => ?_⟩,
    fun q h => ⟨checkVia_eq s q h, fun ht => ?_⟩⟩
  · rw [check_eq]
    exact congrArg (· ++ reported s q d) (local_unlogged ht).log_eq
  · rw [checkVia_eq]
    exact congrArg (· ++ reportedVia s q h) (log_via (fun _ ht => (local_unlogged ht).log_eq) ht)

/-! ## Bob's password -/

/-- Bob sets a password. -/
def bobs (password : String) : PasswordRequest :=
  { user := "bob", password }

/-- A transaction in a database where this procedure checks passwords. -/
def checkedBy (body : Procedure) : Dialog where
  session := ⟨"postgres", [[]]⟩
  host :=
    { processes := ⟨1, []⟩
      catalog := ⟨⟨[("postgres",
        { catalogInstalled := true
          procedures := ⟨[(("public", "check"), body)]⟩
          registrations := [⟨.passcheck, "public", "check"⟩] })]⟩⟩ }

/-- It rejects every password. -/
def refuse : Procedure :=
  fun _ => .finish (.done (.text (some "too short")))

/-- It raises an error that names the password. -/
def tell : Procedure
  | .passcheck r => .finish (.failed ⟨"bad password " ++ r.password, none⟩)
  | .clientauth _ _ => .finish (.done .void)

/-- Where all passwords are rejected, the log does not tell which one it was. -/
theorem log_iff_trouble_refuse :
    reported { mode := .on } (bobs "") (checkedBy refuse) =
      reported { mode := .on } (bobs "hunter2") (checkedBy refuse) := by
  have hkinds (password : String) :
      kinds { mode := .on } (bobs password) (checkedBy refuse) = [.rejection] := rfl
  have hsame : bobs "hunter2" = { bobs "" with password := "hunter2" } := rfl
  have htells := (log_iff_trouble { mode := .on } hsame).2.1 (checkedBy refuse)
    ((hkinds _).trans (hkinds _).symm)
  rw [hkinds] at htells
  exact htells.eq_of_calm (by decide) (by decide)

/-- What bob's procedures end in, and what is logged. -/
theorem tell_run :
    kinds { mode := .on } (bobs "") (checkedBy tell) = [.raise] ∧
      kinds { mode := .on } (bobs "hunter2") (checkedBy tell) = [.raise] ∧
      (check { mode := .on } (bobs "") (checkedBy tell)).2.host.log =
        [⟨.debug, "[PASSCHECK] Password check raised for user \"bob\": bad password "⟩] ∧
      (check { mode := .on } (bobs "hunter2") (checkedBy tell)).2.host.log =
        [⟨.debug, "[PASSCHECK] Password check raised for user \"bob\": bad password hunter2"⟩] := by
  decide +kernel

/-- A procedure that raises what it was given puts the password into the log. -/
theorem check_logs_password :
    ¬ ∀ (s : PasscheckSettings) (r r' : PasswordRequest) (d : Dialog),
      r' = { r with password := r'.password } → kinds s r d = kinds s r' d →
        (check s r d).2.host.log = (check s r' d).2.host.log := by
  intro hsecret
  obtain ⟨hkinds, hkinds', hlog, hlog'⟩ := tell_run
  have heq := hsecret { mode := .on } (bobs "") (bobs "hunter2") (checkedBy tell) rfl
    (hkinds.trans hkinds'.symm)
  rw [hlog, hlog'] at heq
  exact absurd heq (by decide)

end Admission.PasswordCheck
