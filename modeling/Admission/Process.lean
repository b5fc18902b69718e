set_option autoImplicit false

/-!
# Processes

Parties are told apart by process ids.  The number 0 stands for nobody, and
numbers of 2^31 and above name no process.
-/

namespace Admission

/-- The number of a process. -/
abbrev Pid := UInt32

/-- Who is asking, and who is running. -/
structure Processes where
  /-- The calling process. -/
  self : Pid
  /-- The running processes. -/
  living : List Pid
  deriving DecidableEq, Repr, Inhabited

/-- Whether a number names a running process. -/
def Processes.isAlive (ps : Processes) (pid : Pid) : Bool :=
  pid != 0 && pid.toNat < 0x80000000 && ps.living.contains pid

end Admission
