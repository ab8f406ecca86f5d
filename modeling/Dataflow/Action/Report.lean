import Dataflow.Failure
import Dataflow.Port.Access

/-!
# Firings and their reports
-/

namespace Dataflow

/-! ## Reports -/

/-- One completed firing. -/
structure Firing where
  /-- The action that fired. -/
  action : String
  /-- Its place in the priority list. -/
  priority : Nat
  /-- The number of tokens consumed. -/
  consumed : Nat
  /-- The number of tokens produced. -/
  produced : Nat
  /-- The in-ports left empty. -/
  exhausted : NameSet

/-- Everything that fired during one call, in order. -/
structure FireReport where
  firings : List Firing := []
  /-- The in-ports emptied at some point during the call. -/
  exhausted : NameSet := ∅

namespace FireReport

/-- Adds a firing. -/
def record (report : FireReport) (firing : Firing) : FireReport where
  firings := report.firings ++ [firing]
  exhausted := NameSet.union report.exhausted firing.exhausted

/-- Whether anything fired. -/
def fired (report : FireReport) : Bool := !report.firings.isEmpty

/-- The names of the actions that fired. -/
def actions (report : FireReport) : List String := report.firings.map Firing.action

end FireReport

/-! ## Failures -/

/-- Why firing an actor ends in failure.  The inputs of the failing action stay queued. -/
inductive FiringError where
  /-- The body produced another number of values than the action declares. -/
  | invalidProduction (actor : ActorRef) (action : String) (expected produced : Nat)
  /-- The body failed. -/
  | actionFailed (actor : ActorRef) (action : String) (source : Failure)
  /-- An exception token was to be consumed and the actor did not handle it. -/
  | unhandledException (actor : ActorRef) (action : String) (reason : String) (source : Failure)
  /-- The store of ports refused an operation. -/
  | port (error : PortError)
  deriving DecidableEq, Repr

namespace FiringError

/-- The text of the error. -/
def message : FiringError → String
  | invalidProduction actor action expected produced =>
    s!"action '{action}' of {actor.id} produced {produced} value(s), {expected} declared"
  | actionFailed actor action _ => s!"action '{action}' of {actor.id} failed"
  | unhandledException actor action reason _ =>
    s!"action '{action}' of {actor.id} received an unhandled exception token: {reason}"
  | port error => error.message

/-- The failure behind the error. -/
def source? : FiringError → Option Failure
  | actionFailed _ _ source => some source
  | unhandledException _ _ _ source => some source
  | _ => none

end FiringError

end Dataflow
