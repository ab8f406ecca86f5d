import Dataflow.Actor.Lifecycle
import Dataflow.Actors.Arithmetic
import Dataflow.Actors.Devices
import Dataflow.Actors.Flow
import Dataflow.Capability.Device
import Dataflow.Program.Basic

/-!
# The types of actors a session can host
-/

namespace Dataflow

open Actors

/-- A type of actors, by its name; the two that run programs come with their program. -/
inductive Kind where
  | accumulator
  | doubler
  | faulty
  | splitter
  | fetcher
  | leaky
  | evenPass
  | gate
  | resilient
  | prioritized
  | rearming
  | sensor
  | program (program : Program)
  | handler (program : Program)

namespace Kind

/-- The fields of the actors of a kind. -/
abbrev State : Kind → Type
  | accumulator => Accumulator
  | doubler => Doubler
  | faulty => Faulty
  | splitter => Splitter
  | fetcher => Fetcher
  | leaky => Leaky
  | evenPass => EvenPass
  | gate => Gate
  | resilient => Resilient
  | prioritized => Prioritized
  | rearming => Rearming
  | sensor => Sensor
  | program _ => ProgramState
  | handler _ => ProgramState

/-- The actor type of a kind. -/
def type : (kind : Kind) → ActorType DeviceWorld kind.State
  | accumulator => Accumulator.type
  | doubler => Doubler.type
  | faulty => Faulty.type
  | splitter => Splitter.type
  | fetcher => Fetcher.type
  | leaky => Leaky.type
  | evenPass => EvenPass.type
  | gate => Gate.type
  | resilient => Resilient.type
  | prioritized => Prioritized.type
  | rearming => Rearming.type
  | sensor => Sensor.type
  | program code => code.type
  | handler code => code.handlerType

/-- The kind of a name. -/
def ofName? (name : String) (code : Program) : Option Kind :=
  match name with
  | "Accumulator" => some accumulator
  | "Doubler" => some doubler
  | "Faulty" => some faulty
  | "Splitter" => some splitter
  | "Fetcher" => some fetcher
  | "Leaky" => some leaky
  | "EvenPass" => some evenPass
  | "Gate" => some gate
  | "Resilient" => some resilient
  | "Prioritized" => some prioritized
  | "Rearming" => some rearming
  | "Sensor" => some sensor
  | "Program" => some (program code)
  | "Handler" => some (handler code)
  | _ => none

end Kind

/-- An actor that a session hosts. -/
structure Hosted where
  kind : Kind
  /-- Whether it was started; until then it is idle. -/
  active : Bool
  self : Instance DeviceWorld kind.State

end Dataflow
