import Dataflow.Port.Demand
import Dataflow.Queue

/-!
# The ports of one actor

A port set holds the queues of an actor's in-ports and out-ports by name.  It is what moves when an
actor moves to another store, if need be through its portable form.
-/

namespace Dataflow

/-- The queues of an actor's ports. -/
structure PortSet where
  inputs : KeyMap Queue := ∅
  outputs : KeyMap Queue := ∅

namespace PortSet

instance : Inhabited PortSet := ⟨{}⟩

/-- The queues of one direction. -/
def side (ports : PortSet) : Direction → KeyMap Queue
  | .input => ports.inputs
  | .output => ports.outputs

/-- Puts a queue in the place of a port. -/
def setQueue (ports : PortSet) (direction : Direction) (port : String) (queue : Queue) : PortSet :=
  match direction with
  | .input => { ports with inputs := ports.inputs.insert port queue }
  | .output => { ports with outputs := ports.outputs.insert port queue }

/-- Drops every pending peek. -/
def settle (ports : PortSet) : PortSet where
  inputs := ports.inputs.mapValues Queue.cancel
  outputs := ports.outputs.mapValues Queue.cancel

/-- The queues of one direction by name, as an object. -/
def sideValue (queues : KeyMap Queue) : Value := .obj (queues.mapValues Queue.toValue).entries

/-- The portable form. -/
def toValue (ports : PortSet) : Value :=
  .object [("inports", sideValue ports.inputs), ("outports", sideValue ports.outputs)]

/-- Reads the portable form. -/
def ofValue? (value : Value) : Option PortSet :=
  match Decoder.record ["inports", "outports"] value with
  | some [inputs, outputs] =>
    (Decoder.keyMap Queue.ofValue? inputs).bind fun inputs =>
      (Decoder.keyMap Queue.ofValue? outputs).map fun outputs => { inputs, outputs }
  | _ => none

end PortSet

end Dataflow
