set_option autoImplicit false

/-!
# Log lines

What the library reports of its work, one line an event.
-/

namespace Admission

/-- How much a line matters. -/
inductive LogLevel where
  | error
  | warn
  | info
  | debug
  deriving DecidableEq, Repr, Inhabited

/-- The name a level is written with. -/
def LogLevel.name : LogLevel → String
  | .error => "ERROR"
  | .warn => "WARN"
  | .info => "INFO"
  | .debug => "DEBUG"

/-- One reported event. -/
structure LogLine where
  level : LogLevel
  message : String
  deriving DecidableEq, Repr, Inhabited

/-- The line as it is written. -/
def LogLine.render (line : LogLine) : String :=
  line.level.name ++ " " ++ line.message

end Admission
