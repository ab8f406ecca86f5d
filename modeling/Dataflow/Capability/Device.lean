import Dataflow.Capability.Registry
import Dataflow.Value.Text

/-!
# Devices

A world of devices whose behaviour is known, to run actors on.  A script hands out prepared values
and keeps what is written to it; all capabilities opened from one script share it.  An echo device
holds one value, each opening its own.
-/

namespace Dataflow

/-- The state of a script. -/
structure Script where
  /-- Values still to be read. -/
  reads : List Value := []
  /-- Values written so far. -/
  written : List Value := []
  /-- Whether writes are accepted. -/
  writable : Bool := false
  /-- The configuration of each opening. -/
  configs : List Value := []
  /-- How many capabilities were closed. -/
  closed : Nat := 0

namespace Script

instance : Inhabited Script := ⟨{}⟩

/-- The number of capabilities opened. -/
def opened (script : Script) : Nat := script.configs.length

/-- Queues a value to be read. -/
def push (script : Script) (value : Value) : Script :=
  { script with reads := script.reads ++ [value] }

/-- Takes the next value to be read. -/
def read (script : Script) : Script × Except Failure Value :=
  match script.reads with
  | [] => (script, .error ⟨"scripted capability has nothing to read", []⟩)
  | value :: reads => ({ script with reads }, .ok value)

/-- Keeps a written value. -/
def write (script : Script) (value : Value) : Script :=
  { script with written := script.written ++ [value] }

end Script

/-- The state of all devices. -/
structure DeviceWorld where
  scripts : List Script := []
  /-- What each echo device holds. -/
  echoes : List (Option Value) := []

namespace DeviceWorld

instance : Inhabited DeviceWorld := ⟨{}⟩

/-- A script by its place. -/
def script (world : DeviceWorld) (place : Nat) : Script := world.scripts.getD place {}

/-- Puts a script in its place. -/
def setScript (world : DeviceWorld) (place : Nat) (script : Script) : DeviceWorld :=
  { world with scripts := world.scripts.set place script }

/-- What an echo device holds. -/
def echo (world : DeviceWorld) (place : Nat) : Option Value := world.echoes.getD place none

/-- Changes what an echo device holds. -/
def setEcho (world : DeviceWorld) (place : Nat) (content : Option Value) : DeviceWorld :=
  { world with echoes := world.echoes.set place content }

end DeviceWorld

/-! ## Capabilities of devices -/

/-- A capability on a script. -/
def Capability.script (place : Nat) : Capability DeviceWorld where
  canRead world := !(world.script place).reads.isEmpty
  canWrite world := (world.script place).writable
  read world :=
    let (script, answer) := (world.script place).read
    (world.setScript place script, answer)
  write world value := (world.setScript place ((world.script place).write value), .ok ())
  close world :=
    let script := world.script place
    world.setScript place { script with closed := script.closed + 1 }

/-- A capability on an echo device: what is written can be read once. -/
def Capability.echo (place : Nat) : Capability DeviceWorld where
  canRead world := (world.echo place).isSome
  canWrite world := (world.echo place).isNone
  read world :=
    match world.echo place with
    | some value => (world.setEcho place none, .ok value)
    | none => (world, .error ⟨"nothing to read", []⟩)
  write world value :=
    if value.isNull then (world, .error ⟨"null refused", []⟩)
    else (world.setEcho place (some value), .ok ())

/-! ## Factories -/

/-- What can be registered under a name. -/
inductive Device where
  /-- A script, by its place in the world. -/
  | script (place : Nat)
  /-- Cannot be opened. -/
  | broken (message : String)
  /-- Is never ready. -/
  | inert
  /-- Is always ready, but can neither read nor write. -/
  | ready
  /-- Holds one value. -/
  | echo
  deriving DecidableEq, Repr

/-- Opens a device. -/
def Device.factory : Device → Factory DeviceWorld
  | script place => fun world _ config =>
    let state := world.script place
    (world.setScript place { state with configs := state.configs ++ [config] },
      .ok (.script place))
  | broken message => fun world actor config =>
    (world, .error ⟨s!"{message} for {actor.id} with {config.compact}", []⟩)
  | inert => fun world _ _ => (world, .ok {})
  | ready => fun world _ _ => (world, .ok { canRead := fun _ => true, canWrite := fun _ => true })
  | echo => fun world _ _ =>
    ({ world with echoes := world.echoes ++ [none] }, .ok (.echo world.echoes.length))

end Dataflow
