set_option autoImplicit false

/-!
# Errors of the settings

What can be wrong with settings, and the text shown for each cause.  An
unreadable file and malformed YAML carry the detail of the reader that met them.
-/

namespace Admission

/-- Invalid or unreadable settings. -/
inductive ConfigError where
  /-- A mode that is none of `off`, `on` and `require`. -/
  | invalidMode (setting value : String)
  /-- A skip list that could not be read. -/
  | invalidSkipList (setting reason : String)
  /-- A number outside its range. -/
  | outOfRange (setting : String) (value min max : Nat)
  /-- A required setting left empty. -/
  | missing (setting : String)
  /-- The settings file could not be read. -/
  | unreadable (detail : String)
  /-- The settings file is no YAML document of the expected shape. -/
  | malformed (detail : String)
  deriving DecidableEq, Repr, Inhabited

/-- The text shown for an error. -/
def ConfigError.message : ConfigError → String
  | .invalidMode setting value =>
    s!"invalid value for {setting}: \"{value}\" (expected off, on or require)"
  | .invalidSkipList setting reason => s!"could not parse {setting}: {reason}"
  | .outOfRange setting value min max =>
    s!"{value} is outside the valid range for {setting} ({min} .. {max})"
  | .missing setting => s!"{setting} must not be empty"
  | .unreadable detail => s!"failed to read settings: {detail}"
  | .malformed detail => s!"invalid settings file: {detail}"

end Admission
