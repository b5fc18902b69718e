import Admission.Table.Basic
import Admission.Viewer.Options

set_option autoImplicit false

/-!
# Reports of the viewer

What the viewer shows of a slot table, in words or as JSON.  How a process id
is written is left to the caller.
-/

namespace Admission.Viewer

/-- What is shown of a table. -/
structure Report where
  segment : String
  layout : Layout
  lockHolder : Pid
  poolOwner : Pid
  /-- The slots that are shown. -/
  entries : List SlotSnapshot
  deriving DecidableEq, Repr, Inhabited

/-- A text filled up with blanks on the right. -/
def padRight (width : Nat) (text : String) : String :=
  text ++ String.ofList (List.replicate (width - text.length) ' ')

namespace Report

/-! ## In words -/

/-- The owner of a slot in words. -/
def ownerText (showPid : Pid → String) (s : SlotSnapshot) : String :=
  if s.owner = 0 then "-"
  else if s.ownerAlive then showPid s.owner
  else showPid s.owner ++ " (dead)"

/-- The lines about a slot. -/
def entryLines (showPid : Pid → String) (s : SlotSnapshot) : List String :=
  let first :=
    s!"  #{padRight 3 (toString s.index)} {padRight 9 s.state.word} worker={s.worker} " ++
      s!"gen={s.generation} owner={ownerText showPid s}"
  let names :=
    if s.user = "" ∧ s.database = "" then []
    else [s!"       user=\"{s.user}\" database=\"{s.database}\""]
  let rejected := if s.error then [s!"       Rejected: {s.message}"] else []
  first :: names ++ rejected

/-- The lines above the slots. -/
def headLines (showPid : Pid → String) (r : Report) : List String :=
  let pool :=
    if r.poolOwner = 0 then "  No pool running" else s!"  Pool run by pid {showPid r.poolOwner}"
  let lock := if r.lockHolder = 0 then [] else [s!"  Lock held by pid {showPid r.lockHolder}"]
  ["", "=== authpool Slot Table ===",
    s!"  {r.segment}  {r.layout.slots} slots, {r.layout.workers} workers", pool] ++ lock ++ [""]

/-- The lines of a report in words. -/
def prettyLines (showPid : Pid → String) (all : Bool) (r : Report) : List String :=
  headLines showPid r ++
    if r.entries = [] then
      ["  " ++ (if all then "No slots" else "All slots idle"), ""]
    else
      let pending := r.entries.countP fun s => !s.done
      r.entries.flatMap (entryLines showPid) ++
        ["", "--- Summary ---", s!"  Shown: {r.entries.length}  Pending: {pending}", ""]

/-! ## As JSON -/

/-- A field of an object at a depth of indentation. -/
def jsonField (depth : Nat) (name value : String) : String :=
  String.ofList (List.replicate (2 * depth) ' ') ++ Text.jsonQuoted name ++ ": " ++ value

/-- Lines joined by commas and line ends. -/
def commaLines (lines : List String) : String :=
  ",\n".intercalate lines

/-- A slot as an object. -/
def entryJson (showPid : Pid → String) (s : SlotSnapshot) : String :=
  let flag (b : Bool) := if b then "true" else "false"
  let fields :=
    [jsonField 3 "index" (toString s.index), jsonField 3 "worker" (toString s.worker),
      jsonField 3 "owner_pid" (showPid s.owner), jsonField 3 "owner_alive" (flag s.ownerAlive),
      jsonField 3 "available" (flag s.available), jsonField 3 "done_processing" (flag s.done),
      jsonField 3 "generation" (toString s.generation),
      jsonField 3 "user" (Text.jsonQuoted s.user),
      jsonField 3 "database" (Text.jsonQuoted s.database)] ++
    if s.error then [jsonField 3 "error" (Text.jsonQuoted s.message)] else []
  "    \x7b\n" ++ commaLines fields ++ "\n    \x7d"

/-- A report as an object. -/
def json (showPid : Pid → String) (r : Report) : String :=
  let entries :=
    if r.entries = [] then "[]"
    else "[\n" ++ commaLines (r.entries.map (entryJson showPid)) ++ "\n  ]"
  "\x7b\n" ++
    commaLines
      [jsonField 1 "segment" (Text.jsonQuoted r.segment),
        jsonField 1 "slots" (toString r.layout.slots),
        jsonField 1 "workers" (toString r.layout.workers),
        jsonField 1 "lock_holder" (showPid r.lockHolder),
        jsonField 1 "pool_owner" (showPid r.poolOwner),
        jsonField 1 "entries" entries] ++
    "\n\x7d"

/-- A report as it is printed. -/
def render (showPid : Pid → String) (o : Options) (r : Report) : String :=
  match o.format with
  | .pretty => String.join ((prettyLines showPid o.all r).map (· ++ "\n"))
  | .json => json showPid r ++ "\n"

end Report

end Admission.Viewer
