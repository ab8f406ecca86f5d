import Dataflow.Failure
import Dataflow.Log.Event
import Dataflow.Port.Demand
import Dataflow.Text.Visible

/-!
# Capabilities and their registry

A capability gives an actor access to the outside world, whose state is a `W` here.  Actors open
capabilities by name; what a name stands for is decided by the factory registered under it.  An
open capability is polled by guards (`canRead`, `canWrite`), so actions only move data that is
already there.
-/

namespace Dataflow

/-! ## Handles -/

/-- What an actor holds of a capability that it opened. -/
structure Handle where
  /-- The name under which the capability was opened. -/
  name : String
  /-- The number of the opening within its table. -/
  id : Nat
  deriving DecidableEq, Repr

namespace Handle

/-- How a handle is shown. -/
def text (handle : Handle) : String := s!"{handle.name}#{handle.id}"

/-- Whether one handle comes before another: by name, then by number. -/
def precedes (a b : Handle) : Bool := a.name < b.name || (a.name == b.name && a.id < b.id)

/-- Handles in the order of their numbers, with one more at its place. -/
def insertByNumber (handle : Handle) : List Handle → List Handle
  | [] => [handle]
  | other :: rest =>
    if handle.id ≤ other.id then handle :: other :: rest else other :: insertByNumber handle rest

/-- Handles sorted by number; those with one number stay in the order that they are in. -/
def sortByNumber (handles : List Handle) : List Handle := handles.foldr insertByNumber []

end Handle

/-! ## Failures -/

/-- Why an operation on capabilities fails. -/
inductive CapabilityError where
  /-- Nothing is registered under the name. -/
  | notFound (name : String)
  /-- Something is registered under the name already. -/
  | alreadyRegistered (name : String)
  /-- The handle is not open. -/
  | unknownHandle (handle : Handle)
  /-- The factory failed. -/
  | openFailed (name : String) (source : Failure)
  /-- The capability has nothing to read now. -/
  | notReadable (handle : Handle)
  /-- The capability accepts no write now. -/
  | notWritable (handle : Handle)
  /-- The capability failed to read or write. -/
  | io (name : String) (source : Failure)
  deriving DecidableEq, Repr

namespace CapabilityError

/-- The text of the error. -/
def message : CapabilityError → String
  | notFound name => s!"capability '{name}' is not registered"
  | alreadyRegistered name => s!"capability '{name}' is already registered"
  | unknownHandle handle => s!"no open capability for handle {handle.text}"
  | openFailed name _ => s!"failed to open capability '{name}'"
  | notReadable handle => s!"capability '{handle.text}' cannot be read"
  | notWritable handle => s!"capability '{handle.text}' cannot be written"
  | io name _ => s!"capability '{name}' failed"

/-- The failure behind the error. -/
def source? : CapabilityError → Option Failure
  | openFailed _ source => some source
  | io _ source => some source
  | _ => none

/-- The error as a failure of the action or hook that lets it pass. -/
def failure (e : CapabilityError) : Failure where
  message := e.message
  causes :=
    match e.source? with
    | some source => source.message :: source.causes
    | none => []

end CapabilityError

/-! ## Capabilities -/

/-- An open capability, as operations on the world. -/
structure Capability (W : Type) where
  /-- Whether a read would yield a value now. -/
  canRead : W → Bool := fun _ => false
  /-- Whether a write would be accepted now. -/
  canWrite : W → Bool := fun _ => false
  /-- Takes the next value. -/
  read : W → W × Except Failure Value := fun world => (world, .error ⟨"read is not supported", []⟩)
  /-- Hands over a value. -/
  write : W → Value → W × Except Failure Unit := fun world _ =>
    (world, .error ⟨"write is not supported", []⟩)
  /-- Releases what the capability holds. -/
  close : W → W := id

/-- Opens a capability for an actor, with the configuration given by the actor. -/
abbrev Factory (W : Type) := W → ActorRef → Value → W × Except Failure (Capability W)

/-! ## The registry -/

/-- The factories by the names that actors open. -/
structure Registry (W : Type) where
  factories : KeyMap (Factory W) := ∅

namespace Registry

variable {W : Type}

instance : Inhabited (Registry W) := ⟨{}⟩

/-- Registers a factory under a name that is not taken. -/
def register (registry : Registry W) (name : String) (factory : Factory W) :
    Logged (Registry W × Except CapabilityError Unit) :=
  if registry.factories.contains name then pure (registry, .error (.alreadyRegistered name))
  else do
    Logged.report .debug .capabilities "Registering capability" [("capability", .str name)]
    pure ({ factories := registry.factories.insert name factory }, .ok ())

/-- Whether a factory is registered under the name. -/
def contains (registry : Registry W) (name : String) : Bool := registry.factories.contains name

/-- Removes the factory of a name, and says whether there was one. -/
def unregister (registry : Registry W) (name : String) : Registry W × Bool :=
  ({ factories := registry.factories.erase name }, registry.contains name)

/-- Checks that every name is registered; the first that is not is the error. -/
def requireAll (registry : Registry W) (names : List String) : Except CapabilityError Unit :=
  match names.find? fun name => !registry.contains name with
  | some missing => .error (.notFound missing)
  | none => .ok ()

/-- The registered names, in order. -/
def names (registry : Registry W) : List String := registry.factories.keys

/-- The registry as it is shown, by its names. -/
def describe (registry : Registry W) : String :=
  let names := ", ".intercalate (registry.names.map Text.visible)
  "CapabilityRegistry \x7b capabilities: [" ++ names ++ "] \x7d"

end Registry

end Dataflow
