import Admission.Text.Escaped

set_option autoImplicit false

/-!
# Passwords being set

What the host hands over when a password is set.  A password is never shown.
-/

namespace Admission

/-- How a password reached the server. -/
inductive PasswordType where
  | plaintext
  | md5
  | scramSha256
  deriving DecidableEq, Repr, Inhabited

/-- The name of a password type that procedures see. -/
def PasswordType.name : PasswordType → String
  | .plaintext => "PASSWORD_TYPE_PLAINTEXT"
  | .md5 => "PASSWORD_TYPE_MD5"
  | .scramSha256 => "PASSWORD_TYPE_SCRAM_SHA_256"

/-- The short name of a password type, for debugging. -/
def PasswordType.label : PasswordType → String
  | .plaintext => "Plaintext"
  | .md5 => "Md5"
  | .scramSha256 => "ScramSha256"

/-- A password being set. -/
structure PasswordRequest where
  user : String
  /-- As it will be stored: plain, or a verifier. -/
  password : String
  type : PasswordType := .plaintext
  /-- When the account expires, if it does. -/
  validUntil : Option String := none
  deriving DecidableEq, Inhabited

/-- The request as debugging output shows it; in place of the password stands a
fixed text. -/
def PasswordRequest.debug (r : PasswordRequest) : String :=
  let validUntil := match r.validUntil with
    | none => "None"
    | some t => "Some(" ++ Text.debugQuoted t ++ ")"
  "PasswordCheck \x7b user: " ++ Text.debugQuoted r.user ++
    ", password: " ++ Text.debugQuoted "<redacted>" ++
    ", password_type: " ++ r.type.label ++
    ", valid_until: " ++ validUntil ++ " \x7d"

end Admission
