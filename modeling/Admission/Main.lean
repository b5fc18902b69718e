import Admission.Table.Image
import Admission.Viewer.Basic

set_option autoImplicit false

/-!
# The command line

Prints the state of a slot table of this machine.  The segment is read, never
written; all that is printed is decided by `Viewer.run`.
-/

namespace Admission

/-- The memory in which the segment kept by this name has these bytes. -/
def Memory.ofFile (key : String) (bytes : ByteArray) : Memory where
  names := Dict.empty.insert key 0
  segments := [{ size := bytes.size, region := (Image.mk bytes).region }]

namespace Viewer

/-- The name that the table a command line asks for is kept by, if it can be one. -/
def wantedSegment? (words : List String) : Option String :=
  match Command.ofWords words with
  | .view o =>
    match Memory.nameFlaw? o.segment, Memory.Place.ofName o.segment with
    | none, .file key => some key
    | _, _ => none
  | _ => none

/-- The segment kept by this name as it is now. -/
def readSegment (key : String) : IO Memory := do
  match ← (IO.FS.readBinFile ("/dev/shm/" ++ key)).toBaseIO with
  | .ok bytes => return .ofFile key bytes
  | .error _ => return {}

/-- The processes that a segment names. -/
def namedProcesses (m : Memory) : List Pid :=
  m.segments.flatMap fun s =>
    [s.region.header.poolOwner, s.region.lock.holder] ++
      s.region.cells.toList.map (·.slot.owner)

/-- Those of the processes that run. -/
def running (pids : List Pid) : IO (List Pid) :=
  pids.eraseDups.filterM fun pid => do
    match ← (IO.FS.readFile s!"/proc/{pid}/stat").toBaseIO with
    | .ok _ => return true
    | .error _ => return false

end Viewer

end Admission

open Admission in
/-- Print the table that the command line names. -/
def main (words : List String) : IO UInt32 := do
  let memory ← match Viewer.wantedSegment? words with
    | some key => Viewer.readSegment key
    | none => pure {}
  let living ← Viewer.running (Viewer.namedProcesses memory)
  let (exit, _) := Viewer.run ⟨0, living⟩ toString words memory
  IO.print exit.out
  IO.eprint exit.err
  return exit.code.toUInt32
