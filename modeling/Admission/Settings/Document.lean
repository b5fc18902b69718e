import Admission.Settings.Basic
import Admission.Text.Numeral
import Admission.Text.Utf8
import Admission.Yaml.Node

set_option autoImplicit false

/-!
# Settings files

A settings file is a YAML mapping with the sections `clientauth`, `passcheck`
and `host`.  Everything may be left out, unknown keys are passed over, and a key
may not be repeated.  A text field takes any scalar as it is written and a
number field takes a plain whole number; a null leaves the default.
-/

namespace Admission.Settings

/-! ## Fields -/

/-- The fields of a mapping, without aliases among their keys and values.
Nothing at all stands for an empty mapping. -/
def fields? (d : Yaml.Document) : Option Yaml.Node → Option (List (Yaml.Node × Yaml.Node))
  | none => some []
  | some (.mapping entries) => some (entries.map fun (k, v) => (d.resolve k, d.resolve v))
  | some (.scalar "" .plain _) => some []
  | _ => none

/-- Any scalar, as it is written. -/
def text? : Yaml.Node → Option String
  | .scalar text _ _ => some text
  | _ => none

/-- The values of the named keys, if all keys are scalars and no named key is
repeated. -/
def named? (names : List String) (entries : List (Yaml.Node × Yaml.Node)) :
    Option (List (String × Yaml.Node)) := do
  let pairs ← entries.mapM fun (k, v) => (text? k).map (·, v)
  let known := pairs.filter fun (k, _) => names.contains k
  if (known.map (·.1)).Nodup then some known else none

/-- The tag of null. -/
def nullTag : Yaml.Tag := .ofString "tag:yaml.org,2002:null"

/-- The tag of whole numbers. -/
def intTag : Yaml.Tag := .ofString "tag:yaml.org,2002:int"

/-- Whether a text is one of the four spellings of null. -/
def isNull (text : String) : Bool :=
  ["~", "null", "Null", "NULL"].contains text

/-- A field that may be null or left out.  Only a plain scalar without a tag, or
with the tag of null, stands for null. -/
def optional? {α : Type} (read : Yaml.Node → Option α) : Option Yaml.Node → Option (Option α)
  | none => some none
  | some (.scalar text .plain tag) =>
    match tag with
    | none =>
      if text = "" ∨ isNull text then some none else (read (.scalar text .plain none)).map some
    | some t =>
      if t = nullTag then
        if isNull text then some none else none
      else
        (read (.scalar text .plain (some t))).map some
  | some n => (read n).map some

/-- The 64-bit number that digits of a base spell. -/
def numberIn? (base : Nat) (cs : List Char) : Option Nat :=
  Text.numeral? base UInt64.size cs

/-- A whole number: decimal without a leading zero, or hexadecimal, octal or
binary with its mark; one plus sign may stand in front. -/
def numberOfText? (cs : List Char) : Option Nat :=
  let unsigned := match cs with
    | '+' :: rest => rest
    | _ => cs
  let marked := match unsigned with
    | '0' :: 'x' :: rest => numberIn? 16 rest
    | '0' :: 'o' :: rest => numberIn? 8 rest
    | '0' :: 'b' :: rest => numberIn? 2 rest
    | _ => none
  match marked with
  | some n => some n
  | none =>
    match unsigned with
    | '0' :: _ :: _ => none
    | _ => numberIn? 10 unsigned

/-- A plain whole number, or a literal block scalar tagged as one. -/
def number? : Yaml.Node → Option Nat
  | .scalar text style tag =>
    if style = .plain || (style = .literal && tag = some intTag) then
      numberOfText? text.toList
    else
      none
  | _ => none

/-! ## Sections -/

/-- The `clientauth` section as it is written. -/
structure ClientAuthSection where
  mode : Option String := none
  database : Option String := none
  workers : Option Nat := none
  slots : Option Nat := none
  segment : Option String := none
  usersToSkip : Option String := none
  databasesToSkip : Option String := none
  livenessIntervalMs : Option Nat := none
  requestTimeoutMs : Option Nat := none
  restartDelayMs : Option Nat := none
  deriving DecidableEq, Repr, Inhabited

/-- The `passcheck` section as it is written. -/
structure PasscheckSection where
  mode : Option String := none
  database : Option String := none
  deriving DecidableEq, Repr, Inhabited

/-- The `host` section as it is written. -/
structure HostSection where
  maxWorkerProcesses : Option Nat := none
  deriving DecidableEq, Repr, Inhabited

/-- A settings file as it is written. -/
structure Document where
  clientauth : ClientAuthSection := {}
  passcheck : PasscheckSection := {}
  host : HostSection := {}
  deriving DecidableEq, Repr, Inhabited

/-- Read the `clientauth` section. -/
def ClientAuthSection.ofNode? (d : Yaml.Document) (n : Option Yaml.Node) :
    Option ClientAuthSection := do
  let fs ← named? ["mode", "database", "workers", "slots", "segment", "users_to_skip",
    "databases_to_skip", "liveness_interval_ms", "request_timeout_ms", "restart_delay_ms"]
    (← fields? d n)
  let text (name : String) := optional? text? (fs.lookup name)
  let number (name : String) := optional? number? (fs.lookup name)
  pure
    { mode := ← text "mode"
      database := ← text "database"
      workers := ← number "workers"
      slots := ← number "slots"
      segment := ← text "segment"
      usersToSkip := ← text "users_to_skip"
      databasesToSkip := ← text "databases_to_skip"
      livenessIntervalMs := ← number "liveness_interval_ms"
      requestTimeoutMs := ← number "request_timeout_ms"
      restartDelayMs := ← number "restart_delay_ms" }

/-- Read the `passcheck` section. -/
def PasscheckSection.ofNode? (d : Yaml.Document) (n : Option Yaml.Node) :
    Option PasscheckSection := do
  let fs ← named? ["mode", "database"] (← fields? d n)
  pure
    { mode := ← optional? text? (fs.lookup "mode")
      database := ← optional? text? (fs.lookup "database") }

/-- Read the `host` section. -/
def HostSection.ofNode? (d : Yaml.Document) (n : Option Yaml.Node) : Option HostSection := do
  let fs ← named? ["max_worker_processes"] (← fields? d n)
  pure { maxWorkerProcesses := ← optional? number? (fs.lookup "max_worker_processes") }

/-- Read a whole file. -/
def Document.ofYaml? (d : Yaml.Document) : Option Document := do
  let fs ← named? ["clientauth", "passcheck", "host"] (← fields? d (d.root.map d.resolve))
  pure
    { clientauth := ← ClientAuthSection.ofNode? d (fs.lookup "clientauth")
      passcheck := ← PasscheckSection.ofNode? d (fs.lookup "passcheck")
      host := ← HostSection.ofNode? d (fs.lookup "host") }

/-! ## Settings of a document -/

/-- The connection hook's settings; a timeout of zero is no timeout. -/
def ClientAuthSection.toSettings (d : ClientAuthSection) :
    Except ConfigError ClientAuthSettings := do
  let base : ClientAuthSettings := {}
  let mode ← d.mode.mapM (Mode.parse "clientauth.mode")
  let users ← d.usersToSkip.mapM (SkipList.parse "clientauth.users_to_skip")
  let databases ← d.databasesToSkip.mapM (SkipList.parse "clientauth.databases_to_skip")
  let span (ms : Nat) := Duration.ofMilliseconds ms.toUInt64
  pure
    { mode := mode.getD base.mode
      database := d.database.getD base.database
      workers := d.workers.getD base.workers
      slots := d.slots.getD base.slots
      segment := d.segment.getD base.segment
      usersToSkip := users.getD base.usersToSkip
      databasesToSkip := databases.getD base.databasesToSkip
      livenessInterval := (d.livenessIntervalMs.map span).getD base.livenessInterval
      requestTimeout := (d.requestTimeoutMs.filter (0 < ·)).map span
      restartDelay := (d.restartDelayMs.map span).getD base.restartDelay }

/-- The settings of a document, if they are valid. -/
def Document.toSettings (d : Document) : Except ConfigError Settings := do
  let clientauth ← d.clientauth.toSettings
  let mode ← d.passcheck.mode.mapM (Mode.parse "passcheck.mode")
  let base : Settings := {}
  let s : Settings :=
    { clientauth
      passcheck :=
        { mode := mode.getD base.passcheck.mode
          database := d.passcheck.database.getD base.passcheck.database }
      host :=
        { maxWorkerProcesses := d.host.maxWorkerProcesses.getD base.host.maxWorkerProcesses } }
  s.validate
  pure s

/-- The settings a YAML text holds, if they are valid. -/
def ofYaml (text : String) : Except ConfigError Settings :=
  match Yaml.Document.ofText? text with
  | .error e => .error (.malformed e.message)
  | .ok d =>
    match Document.ofYaml? d with
    | none => .error (.malformed "invalid type")
    | some file => file.toSettings

/-- The settings that the bytes of a YAML file hold, if they are valid. -/
def ofYamlBytes (bytes : List UInt8) : Except ConfigError Settings :=
  match Text.Utf8.decode? bytes with
  | none => .error (.unreadable "stream did not contain valid UTF-8")
  | some cs => ofYaml (String.ofList cs)

end Admission.Settings
