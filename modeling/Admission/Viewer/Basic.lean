import Admission.Viewer.Report

set_option autoImplicit false

/-!
# The viewer

A command that prints the state of a slot table.  It attaches to the table
without making one, looks at all slots under the table lock, and shows the ones
that are not idle, or all.
-/

namespace Admission.Viewer

/-- How a run of the viewer ends. -/
structure Exit where
  code : Nat
  out : String := ""
  err : String := ""
  deriving DecidableEq, Repr, Inhabited

/-- What the viewer says about itself. -/
def usage : String :=
  "Inspect authpool slot tables\n\nUsage: authpool-slot-viewer [OPTIONS] <SEGMENT>\n\n" ++
    "Arguments:\n" ++
    "  <SEGMENT>  Segment name, as in clientauth.segment (e.g. /authpool)\n\nOptions:\n" ++
    "  -a, --all              Show idle slots too\n" ++
    "  -f, --format <FORMAT>  Output format: pretty, json [default: pretty]\n" ++
    "  -h, --help             Print help\n  -V, --version          Print version\n"

/-- The report on a table whose lock is free. -/
def reportOn (ps : Processes) (o : Options) (t : SlotTable) (r : Region) : Report where
  segment := o.segment
  layout := t.layout
  lockHolder := r.lock.holder
  poolOwner := r.header.poolOwner
  entries := (r.snapshot ps t.layout).filter fun s => o.all || !s.isIdle

/-- Look at a table in memory and print it.  Looking leaves the table lock free. -/
def view (ps : Processes) (showPid : Pid → String) (o : Options) (m : Memory) : Exit × Memory :=
  match SlotTable.openExisting m o.segment with
  | .error e => ({ code := 1, err := s!"Error: {e.message}\n" }, m)
  | .ok t =>
    let (r, _) := (m.region t.segment).locking ps
    ({ code := 0, out := (reportOn ps o t r).render showPid o }, m.setRegion t.segment r)

/-- Carry out a command line. -/
def run (ps : Processes) (showPid : Pid → String) (words : List String) (m : Memory) :
    Exit × Memory :=
  match Command.ofWords words with
  | .view o => view ps showPid o m
  | .help => ({ code := 0, out := usage }, m)
  | .version => ({ code := 0, out := "authpool-slot-viewer 0.1.0\n" }, m)
  | .misuse => ({ code := 2, err := usage }, m)

end Admission.Viewer
