import Dataflow.Session.Answer
import Dataflow.Session.Decode

/-!
# Working on a single queue

Commands to one queue, each answered with the result and a view of the queue after it.
-/

namespace Dataflow

/-- The queue as it is seen after a command. -/
def Queue.summary (queue : Queue) : Value :=
  .object
    [("len", .nat queue.length), ("pending", .nat queue.pending), ("empty", .bool queue.isEmpty),
      ("capacity", queue.capacity.toValue), ("tokens", Token.listValue queue.tokens)]

/-- A command to a queue. -/
inductive QueueCommand where
  | write (token : Token)
  | peek (count : Nat)
  | commit
  | cancel
  | drain
  | tokensAvailable (count : Nat)
  | slotsAvailable (count : Nat)
  /-- The portable form of the queue. -/
  | dump
  /-- Replaces the queue by what its portable form is read as, and asks whether that is equal. -/
  | reload
  /-- A command with a part that is not of its form. -/
  | undecodable
  | unknown

/-- Reads a command to a queue. -/
def QueueCommand.given (command : Value) : QueueCommand :=
  let count := (command.field "n").count
  match (command.field "do").text with
  | "write" => ((Token.given? command).map .write).getD .undecodable
  | "peek" => .peek count
  | "commit" => .commit
  | "cancel" => .cancel
  | "drain" => .drain
  | "tokens_available" => .tokensAvailable count
  | "slots_available" => .slotsAvailable count
  | "dump" => .dump
  | "reload" => .reload
  | _ => .unknown

/-- A queue that is full, with the token handed back. -/
def Problem.full (token : Token) : Problem :=
  { kind := "Full", message := some token.toValue.compact }

/-- What a command does to a queue, and its result. -/
def Queue.step (queue : Queue) : QueueCommand → Queue × Except Problem Value
  | .write token =>
    match queue.write? token with
    | some queue => (queue, .ok .null)
    | none => (queue, .error (.full token))
  | .peek count =>
    let (queue, tokens) := queue.peek count
    (queue, .ok ((tokens.map Token.listValue).getD .null))
  | .commit =>
    let (queue, count) := queue.commit
    (queue, .ok (.nat count))
  | .cancel => (queue.cancel, .ok .null)
  | .drain =>
    let (queue, tokens) := queue.drain
    (queue, .ok (Token.listValue tokens))
  | .tokensAvailable count => (queue, .ok (.bool (queue.tokensAvailable count)))
  | .slotsAvailable count => (queue, .ok (.bool (queue.slotsAvailable count)))
  | .dump => (queue, .ok queue.toValue)
  | .reload =>
    match Queue.ofValue? queue.toValue with
    | some again => (again, .ok (.bool (again.same queue)))
    | none => (queue, .error .decode)
  | .undecodable => (queue, .error .decode)
  | .unknown => (queue, .error .badInput)

/-- Runs commands on a queue; the answers in order. -/
def Queue.run : List QueueCommand → Queue → List Answer
  | [], _ => []
  | command :: rest, queue =>
    let (queue, result) := queue.step command
    { result, views := [("queue", queue.summary)] } :: Queue.run rest queue

end Dataflow
