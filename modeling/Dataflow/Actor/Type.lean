import Dataflow.Action.Fire
import Dataflow.Capability.Context
import Dataflow.Snapshot.Managed

/-!
# Types of actors

An actor type fixes what all its actors have in common: the managed fields, the actions by
priority, the capabilities that have to be registered, and the hooks that run when an actor starts,
moves and ends.
-/

namespace Dataflow

/-- An actor at work: its own fields and its context. -/
structure Instance (W σ : Type) where
  model : σ
  context : Context W

/-- Code that runs at a turning point of an actor's life. -/
abbrev Hook (W σ : Type) := Instance W σ → Logged (Instance W σ × Except Failure Unit)

/-- The hook that does nothing. -/
def Hook.none {W σ : Type} : Hook W σ := fun self => pure (self, .ok ())

/-- The body of an action that works on the actor's own fields alone. -/
def onModel {W σ : Type} (work : σ → List Value → σ × Except Failure ActionResult)
    (self : Instance W σ) (values : List Value) :
    Logged (Instance W σ × Except Failure ActionResult) :=
  let (model, result) := work self.model values
  pure ({ self with model }, result)

/-- A production of a single value. -/
def ActionResult.one (value : Value) : ActionResult := .produced [value]

/-- One token of a port. -/
def PortCount.one (port : String) : PortCount := ⟨port, 1⟩

/-- What becomes of an exception token that an actor does not expect. -/
def unhandled (reason : String) : Failure := ⟨exceptionText reason ++ " NOT HANDLED", []⟩

/-- A type of actors over a world `W` with fields `σ`. -/
structure ActorType (W σ : Type) where
  /-- The name recorded in snapshots. -/
  name : String
  /-- The managed fields and the default. -/
  managed : ManagedType σ
  /-- Capabilities that have to be registered before an actor is created. -/
  requires : List String := []
  /-- The actions, highest priority first. -/
  actions : List (Action (Instance W σ)) := []
  /-- The hook of a new actor for a configuration, if that is one of this type. -/
  init : Value → Option (Hook W σ)
  /-- Runs before the state is captured for a move. -/
  willMigrate : Hook W σ := Hook.none
  /-- Runs after the state was restored. -/
  didMigrate : Hook W σ := Hook.none
  /-- Runs before the actor is discarded. -/
  willEnd : Hook W σ := Hook.none
  /-- Is given the name of the action and the reason of the exception token. -/
  onException : Instance W σ → String → String →
      Logged (Instance W σ × Except Failure ActionResult) :=
    fun self _ reason => pure (self, .error (unhandled reason))

namespace ActorType

variable {W σ : Type}

/-- The hook of types that have no configuration: only null is one. -/
def unconfigured : Value → Option (Hook W σ)
  | .null => some Hook.none
  | _ => none

/-- The actors of a type as the engine sees them. -/
def behaviour (type : ActorType W σ) (actor : ActorRef) : Behaviour (Instance W σ) where
  actor := actor
  actions := type.actions
  onException := type.onException

end ActorType

end Dataflow
