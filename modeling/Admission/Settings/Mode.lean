import Admission.Settings.Error
import Admission.Text.Blank

set_option autoImplicit false

/-!
# Feature modes

Whether a hook runs, and whether it insists on finding procedures to run.
-/

namespace Admission

/-- How much a hook demands. -/
inductive Mode where
  /-- The hook is disabled and everything proceeds. -/
  | off
  /-- Registered procedures run if there are any. -/
  | on
  /-- Registered procedures run; having none is itself a rejection. -/
  | require
  deriving DecidableEq, Repr, Inhabited

namespace Mode

/-- The canonical name of a mode. -/
def name : Mode → String
  | .off => "off"
  | .on => "on"
  | .require => "require"

/-- Lower-case the ASCII letters of a text. -/
def lowerAscii (cs : List Char) : List Char :=
  cs.map Char.toLower

/-- Read a mode: blanks around it and the case of its letters do not matter, and
`required` stands for `require`.  `setting` names the source in the error. -/
def parse (setting value : String) : Except ConfigError Mode :=
  let word := String.ofList (lowerAscii (Text.trim value.toList))
  if word = "off" then .ok .off
  else if word = "on" then .ok .on
  else if word = "require" ∨ word = "required" then .ok .require
  else .error (.invalidMode setting value)

/-- Every canonical name reads back. -/
theorem parse_name (setting : String) (m : Mode) : parse setting m.name = .ok m := by
  cases m <;> rfl

end Mode

end Admission
