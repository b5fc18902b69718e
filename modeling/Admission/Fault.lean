import Admission.Attempt

set_option autoImplicit false

/-!
# Fault plans

A host can be told in advance which calls to its database will fail.  A planned
fault strikes before the database is reached, so nothing there changes.
-/

namespace Admission

/-- A call that can be made to fail. -/
inductive FaultPoint where
  | connect
  | databaseExists
  | begin
  | commit
  | beginSub
  | releaseSub
  | catalogInstalled
  | featureEntries
  | call
  deriving DecidableEq, Repr, Inhabited

/-- The name of a point. -/
def FaultPoint.name : FaultPoint → String
  | .connect => "connect"
  | .databaseExists => "database_exists"
  | .begin => "begin"
  | .commit => "commit"
  | .beginSub => "begin_sub"
  | .releaseSub => "release_sub"
  | .catalogInstalled => "catalog_installed"
  | .featureEntries => "feature_entries"
  | .call => "call"

/-- All points. -/
def FaultPoint.all : List FaultPoint :=
  [.connect, .databaseExists, .begin, .commit, .beginSub, .releaseSub, .catalogInstalled,
    .featureEntries, .call]

/-- What a planned fault does. -/
inductive Fault where
  /-- The call answers with this error. -/
  | error (message : String)
  /-- The call panics with this text. -/
  | panic (message : String)
  deriving DecidableEq, Repr, Inhabited

/-- How an attempt ends that a fault strikes. -/
def Fault.ending {α : Type} : Fault → Ending α
  | .error message => .failed ⟨message, none⟩
  | .panic message => .unwound (.text message)

/-- A number of calls one after another that meet the same fault, or none. -/
structure FaultRun where
  fault : Option Fault
  times : Nat
  deriving DecidableEq, Repr, Inhabited

/-- What happens to the next call, and the runs after it. -/
def FaultRun.takeFirst : List FaultRun → Option Fault × List FaultRun
  | [] => (none, [])
  | ⟨_, 0⟩ :: rest => takeFirst rest
  | ⟨fault, times + 1⟩ :: rest => (fault, ⟨fault, times⟩ :: rest)

/-- For every point what happens to its next calls; calls beyond the runs go
through. -/
structure FaultPlan where
  upcoming : FaultPoint → List FaultRun

namespace FaultPlan

/-- No faults. -/
def none : FaultPlan := ⟨fun _ => []⟩

instance : Inhabited FaultPlan := ⟨none⟩

/-- Plan for a point, in place of what was planned for it. -/
def set (plan : FaultPlan) (point : FaultPoint) (upcoming : List FaultRun) : FaultPlan :=
  ⟨fun p => if p = point then upcoming else plan.upcoming p⟩

/-- What happens to the next call of a point, and the plan after it. -/
def next (plan : FaultPlan) (point : FaultPoint) : Option Fault × FaultPlan :=
  let (fault, rest) := FaultRun.takeFirst (plan.upcoming point)
  (fault, plan.set point rest)

/-- How many calls the plan says something about. -/
def size (plan : FaultPlan) : Nat :=
  FaultPoint.all.foldl (fun n p => (plan.upcoming p).foldl (fun n run => n + run.times) n) 0

end FaultPlan

end Admission
