import Dataflow.Failure
import Dataflow.Log.Event
import Dataflow.Port.Demand

/-!
# Actions

An action is a guarded step from in-ports to out-ports.  It works on a state `S`, which is an
actor's own fields together with its context.  The actions of an actor are listed by priority,
highest first, and never change.
-/

namespace Dataflow

/-- What the body of an action reports. -/
inductive ActionResult where
  /-- Values for the declared outputs, one after the other in declaration order. -/
  | produced (values : List Value)
  /-- `true`: fired without producing anything.  `false`: declined after seeing its inputs, which
  stay queued. -/
  | fired (fired : Bool)

/-- A guarded step from in-ports to out-ports. -/
structure Action (S : Type) where
  name : String
  /-- Asked before any port is looked at. -/
  guard : Option (S → Bool) := none
  /-- Asked with the values that would be consumed. -/
  inputGuard : Option (S → List Value → Bool) := none
  /-- The tokens consumed, in order. -/
  inputs : List PortCount := []
  /-- The tokens produced, in order. -/
  outputs : List PortCount := []
  /-- Turns the consumed values, in the order of the declared inputs, into the values produced. -/
  body : S → List Value → Logged (S × Except Failure ActionResult)

namespace Action

variable {S : Type}

/-- The number of values that the body has to produce. -/
def outputArity (action : Action S) : Nat := PortCount.size action.outputs

/-- Whether the guard, if there is one, holds. -/
def open? (action : Action S) (state : S) : Bool := action.guard.all fun guard => guard state

/-- Whether the input guard, if there is one, accepts the values. -/
def accepts (action : Action S) (state : S) (values : List Value) : Bool :=
  action.inputGuard.all fun guard => guard state values

end Action

/-- An actor as the engine sees it: its identity, its actions by priority, and what it does with an
exception token in the place of an action's body. -/
structure Behaviour (S : Type) where
  actor : ActorRef
  actions : List (Action S)
  /-- Is given the name of the action and the reason of the exception token. -/
  onException : S → String → String → Logged (S × Except Failure ActionResult)

end Dataflow
