import Dataflow.Actors.Devices
import Dataflow.Actors.Flow
import Dataflow.Program.Basic
import Dataflow.Session.Answer
import Dataflow.Snapshot.Samples

/-!
# Working on managed state

Commands to one value of a type with managed state, each answered with the result and the state
after it.
-/

namespace Dataflow

/-- A command to a value. -/
inductive StateCommand where
  /-- Restores the managed fields of the value. -/
  | set (state : Value)
  /-- Replaces the value by one restored from the default. -/
  | replace (state : Value)
  | unknown

/-- Reads a command to a value. -/
def StateCommand.given (command : Value) : StateCommand :=
  match command.member? "set", command.member? "from" with
  | some state, _ => set state
  | none, some state => replace state
  | none, none => unknown

namespace ManagedType

variable {σ : Type}

/-- The state of a value, or why it cannot be captured. -/
def stateView (type : ManagedType σ) (x : σ) : Value :=
  match type.state x with
  | .ok state => state
  | .error e => e.problem.toValue

/-- Answers a command to a value, with the value after it. -/
def step (type : ManagedType σ) (reject : Bool) (x : σ) : StateCommand → σ × Except Problem Unit
  | .set state =>
    let (y, result) := (type.setState reject x state).value
    (y, result.mapError SnapshotError.problem)
  | .replace state =>
    match (type.fromState reject state).value with
    | .ok y => (y, .ok ())
    | .error e => (x, .error e.problem)
  | .unknown => (x, .error .badInput)

/-- Runs commands on a value; the answers in order. -/
def run (type : ManagedType σ) (reject : Bool) : List StateCommand → σ → List Value
  | [], _ => []
  | command :: rest, x =>
    let (y, result) := type.step reject x command
    let answer : Answer :=
      { result := Answer.ofExcept id (fun () => .null) result
        views := [("state", type.stateView y)] }
    answer.toValue :: run type reject rest y

/-- The managed fields of a type, its default, and the answers to commands to the default. -/
def demonstrate (type : ManagedType σ) (reject : Bool) (commands : List StateCommand) : Value :=
  .object
    [("fields", .strings type.fields.names), ("default", type.stateView type.default),
      ("steps", .arr (type.run reject commands type.default))]

end ManagedType

/-- Demonstrates the type of a name. -/
def demonstrateState? (name : String) (reject : Bool) (commands : List StateCommand) :
    Option Value :=
  let shown {σ : Type} (type : ManagedType σ) : Option Value :=
    some (type.demonstrate reject commands)
  match name with
  | "Accumulator" => shown Actors.Accumulator.managed
  | "Stats" => shown Actors.Stats.managed
  | "Doubler" => shown Actors.Doubler.managed
  | "Splitter" => shown Actors.Splitter.managed
  | "Fetcher" => shown Actors.Fetcher.managed
  | "Gate" => shown Actors.Gate.managed
  | "Resilient" => shown Actors.Resilient.managed
  | "Sensor" => shown Actors.Sensor.managed
  | "Program" => shown ProgramState.managed
  | "Kitchen" => shown Samples.Kitchen.managed
  | "Inner" => shown Samples.Inner.managed
  | "Outer" => shown Samples.Outer.managed
  | "Boxed" => shown Samples.Boxed.ofText
  | "Lookup" => shown Samples.Lookup.managed
  | "Empty" => shown Samples.Empty.managed
  | _ => none

end Dataflow
