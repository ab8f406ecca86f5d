import Dataflow.Actor.Type
import Dataflow.Settings.Basic
import Dataflow.Snapshot.Record

/-!
# The life of an actor

An actor is created, then either initialised or restored from a snapshot, then fired, captured and
moved any number of times, and ended.  Handles that an actor leaves open before a move or at its
end are closed if the settings say so.  An operation answers what is left of the instance also when
it fails.
-/

namespace Dataflow

/-! ## Failures -/

/-- Why an actor cannot be started, moved or ended. -/
inductive LifecycleError where
  /-- The configuration is none of the actor's type. -/
  | config (actor : ActorRef)
  /-- A hook failed. -/
  | hook (actor : ActorRef) (name : String) (source : Failure)
  /-- The state could not be restored. -/
  | snapshot (error : SnapshotError)
  deriving DecidableEq, Repr

namespace LifecycleError

/-- The text of the error. -/
def message : LifecycleError → String
  | config actor => s!"invalid configuration for {actor.id}"
  | hook actor name _ => s!"{name} hook of {actor.id} failed"
  | snapshot error => error.message

/-- The causes that are part of the answer. -/
def source? : LifecycleError → Option String
  | hook _ _ source => some source.chain
  | snapshot error => error.source?
  | _ => none

end LifecycleError

namespace Instance

variable {W σ : Type}

/-- The identity of the actor. -/
def actor (self : Instance W σ) : ActorRef := self.context.actor

end Instance

namespace ActorType

variable {W σ : Type}

/-! ## Starting -/

/-- Creates an actor, provided that all capabilities its type requires are registered. -/
def create (type : ActorType W σ) (actor : ActorRef) (registry : Registry W) (world : W) :
    Logged (Except CapabilityError (Instance W σ)) :=
  match registry.requireAll type.requires with
  | .error e => pure (.error e)
  | .ok () => do
    Logged.report .debug .idle "Created actor"
      [("actor_ref", .str actor.id), ("actions", .nat type.actions.length)]
    pure (.ok
      { model := type.managed.default
        context := { table := { actor }, registry, world } })

/-- Runs a hook; its failure is named after it. -/
def runHook (name : String) (hook : Hook W σ) (self : Instance W σ) :
    Logged (Instance W σ × Except LifecycleError Unit) := do
  let (self, result) ← hook self
  pure (self, result.mapError (.hook self.actor name))

/-- Starts a new actor with a configuration. -/
def start (type : ActorType W σ) (self : Instance W σ) (config : Value) :
    Logged (Instance W σ × Except LifecycleError Unit) :=
  match type.init config with
  | none => pure (self, .error (.config self.actor))
  | some hook => runHook "init" hook self

/-- Starts an actor with the state of a snapshot, and lets it re-acquire its capabilities. -/
def restore (type : ActorType W σ) (settings : Settings) (self : Instance W σ)
    (snapshot : Snapshot) : Logged (Instance W σ × Except LifecycleError Unit) :=
  if snapshot.actorType ≠ type.name then
    pure (self, .error (.snapshot (.typeMismatch type.name snapshot.actorType)))
  else do
    if snapshot.actor ≠ self.actor then
      Logged.report .warn .idle "Restoring state captured from another actor"
        [("from", .str snapshot.actor.id)]
    match ← type.managed.setState settings.rejectUnknownFields self.model snapshot.managed with
    | (model, .error e) => pure ({ self with model }, .error (.snapshot e))
    | (model, .ok ()) => runHook "did_migrate" type.didMigrate { self with model }

/-! ## Working -/

/-- Fires an actor until nothing is eligible, within a limit of scans. -/
def fire {P : Type} [PortAccess P] (type : ActorType W σ) (limit : Nat) (self : Instance W σ)
    (ports : P) : Logged (Option (Outcome (Instance W σ) P FireReport)) :=
  (type.behaviour self.actor).fire limit self ports

/-- Captures the managed state. -/
def capture (type : ActorType W σ) (self : Instance W σ) : Except SnapshotError Snapshot :=
  (type.managed.state self.model).map fun managed =>
    { actorType := type.name, actor := self.actor, managed }

/-! ## Moving and ending -/

/-- Reports about handles that a hook left open. -/
def reportLeaked (actor : ActorRef) (hook message : String) : List Handle → Logged Unit
  | [] => pure ()
  | handle :: rest => do
    Logged.report .warn .lifecycle message
      [("actor", .str actor.id), ("handle", .str handle.text), ("hook", .str hook)]
    reportLeaked actor hook message rest

/-- Deals with the handles that a hook left open. -/
def settleHandles (settings : Settings) (hook : String) (self : Instance W σ) :
    Logged (Instance W σ) :=
  match self.context.openHandles with
  | [] => pure self
  | leaked => do
    Logged.useSettings
    if settings.closeLeakedCapabilities then
      let (context, closed) ← self.context.closeAll
      reportLeaked self.actor hook "Closed capability left open" closed
      pure { self with context }
    else
      reportLeaked self.actor hook "Capability left open" leaked
      pure self

/-- Runs a hook after which no handle should be open. -/
def runReleasingHook (settings : Settings) (name : String) (hook : Hook W σ)
    (self : Instance W σ) : Logged (Instance W σ × Except LifecycleError Unit) := do
  let (self, result) ← runHook name hook self
  let self ← settleHandles settings name self
  pure (self, result)

/-- Prepares an actor for a move. -/
def prepareMove (type : ActorType W σ) (settings : Settings) (self : Instance W σ) :
    Logged (Instance W σ × Except LifecycleError Unit) :=
  runReleasingHook settings "will_migrate" type.willMigrate self

/-- Lets an actor resume after a move that did not happen. -/
def resume (type : ActorType W σ) (self : Instance W σ) :
    Logged (Instance W σ × Except LifecycleError Unit) :=
  runHook "did_migrate" type.didMigrate self

/-- Ends an actor. -/
def finish (type : ActorType W σ) (settings : Settings) (self : Instance W σ) :
    Logged (Instance W σ × Except LifecycleError Unit) :=
  runReleasingHook settings "will_end" type.willEnd self

end ActorType

end Dataflow
