import Dataflow.Capability.Registry

/-!
# The capabilities of one actor

Each actor has a table of the capabilities it has opened, addressed by handle.  Numbers are given
out in the order of opening and never again, so a handle that was closed stays closed.  A
`Context` is such a table together with the registry and the world it works on; it is what guards,
bodies and hooks are given.
-/

namespace Dataflow

/-- The open capabilities of an actor, by handle. -/
structure HandleTable (W : Type) where
  actor : ActorRef
  /-- In the order of the handles. -/
  opened : List (Handle × Capability W) := []
  /-- The number of the next handle. -/
  nextId : Nat := 0

namespace HandleTable

variable {W : Type}

/-- The capability of an open handle. -/
def find? (table : HandleTable W) (handle : Handle) : Option (Capability W) :=
  (table.opened.find? fun entry => entry.1 = handle).map Prod.snd

/-- The open handles by number, which is the order of opening. -/
def handles (table : HandleTable W) : List Handle :=
  Handle.sortByNumber (table.opened.map Prod.fst)

/-- Entries with one more at its place; it replaces one that has the same handle. -/
def place (handle : Handle) (capability : Capability W) :
    List (Handle × Capability W) → List (Handle × Capability W)
  | [] => [(handle, capability)]
  | entry :: rest =>
    if handle.precedes entry.1 then (handle, capability) :: entry :: rest
    else if entry.1 = handle then (handle, capability) :: rest
    else entry :: place handle capability rest

end HandleTable

/-- What an actor's code works with besides the actor's own state. -/
structure Context (W : Type) where
  table : HandleTable W
  registry : Registry W
  world : W

namespace Context

variable {W : Type}

/-- The actor that the context belongs to. -/
def actor (context : Context W) : ActorRef := context.table.actor

/-- The open handles, in opening order. -/
def openHandles (context : Context W) : List Handle := context.table.handles

/-- Whether a capability has something to read; a handle that is not open never has. -/
def canRead (context : Context W) (handle : Handle) : Bool :=
  (context.table.find? handle).any fun capability => capability.canRead context.world

/-- Whether a capability accepts a write; a handle that is not open never does. -/
def canWrite (context : Context W) (handle : Handle) : Bool :=
  (context.table.find? handle).any fun capability => capability.canWrite context.world

/-- Opens the capability registered under a name.  A failure opens nothing and uses up no
number. -/
def openCapability (context : Context W) (name : String) (config : Value) :
    Logged (Context W × Except CapabilityError Handle) :=
  match context.registry.factories.get? name with
  | none => pure (context, .error (.notFound name))
  | some factory =>
    let table := context.table
    match factory context.world table.actor config with
    | (world, .error source) => do
      Logged.report .error .capabilities ("Failed to open capability: " ++ source.chain)
        [("actor", .str table.actor.id), ("capability", .str name)]
      pure ({ context with world }, .error (.openFailed name source))
    | (world, .ok capability) => do
      let handle : Handle := ⟨name, table.nextId⟩
      Logged.report .debug .capabilities "Opened capability"
        [("actor", .str table.actor.id), ("handle", .str handle.text)]
      let opened := HandleTable.place handle capability table.opened
      pure ({ context with world, table := { table with opened, nextId := table.nextId + 1 } },
        .ok handle)

/-- Reads from a capability that is ready. -/
def read (context : Context W) (handle : Handle) : Context W × Except CapabilityError Value :=
  match context.table.find? handle with
  | none => (context, .error (.unknownHandle handle))
  | some capability =>
    if capability.canRead context.world then
      let (world, answer) := capability.read context.world
      ({ context with world }, answer.mapError (.io handle.name))
    else (context, .error (.notReadable handle))

/-- Writes to a capability that is ready. -/
def write (context : Context W) (handle : Handle) (value : Value) :
    Context W × Except CapabilityError Unit :=
  match context.table.find? handle with
  | none => (context, .error (.unknownHandle handle))
  | some capability =>
    if capability.canWrite context.world then
      let (world, answer) := capability.write context.world value
      ({ context with world }, answer.mapError (.io handle.name))
    else (context, .error (.notWritable handle))

/-- Reports that a capability was closed. -/
def reportClosed (actor : ActorRef) (handle : Handle) : Logged Unit :=
  Logged.report .debug .capabilities "Closed capability"
    [("actor", .str actor.id), ("handle", .str handle.text)]

/-- Closes a capability, and says whether the handle was open. -/
def close (context : Context W) (handle : Handle) : Logged (Context W × Bool) :=
  match context.table.find? handle with
  | some capability => do
    reportClosed context.actor handle
    let opened := context.table.opened.filter fun entry => entry.1 ≠ handle
    pure ({ context with
      world := capability.close context.world, table := { context.table with opened } }, true)
  | none => do
    Logged.report .trace .capabilities "Close of unknown capability handle ignored"
      [("actor", .str context.actor.id), ("handle", .str handle.text)]
    pure (context, false)

/-- Closes capabilities in turn. -/
def closeEach (actor : ActorRef) : List (Handle × Capability W) → W → Logged W
  | [], world => pure world
  | (handle, capability) :: rest, world => do
    reportClosed actor handle
    closeEach actor rest (capability.close world)

/-- Closes every open capability, in the order of the handles, and answers these. -/
def closeAll (context : Context W) : Logged (Context W × List Handle) := do
  let closing := context.table.opened
  let world ← closeEach context.actor closing context.world
  pure ({ context with world, table := { context.table with opened := [] } },
    closing.map Prod.fst)

end Context

end Dataflow
