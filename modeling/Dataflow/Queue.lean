import Dataflow.Token

/-!
# Token queues

The queue of a port, with a tentative read cursor.  Reading has two phases: `Queue.peek` hands out
the tokens past the cursor and moves the cursor over them, then `Queue.commit` removes everything
before the cursor, or `Queue.cancel` moves it back so that the same tokens are seen again.  Tokens
handed out still take up their places until they are committed.
-/

namespace Dataflow

/-! ## Capacities -/

/-- How many tokens a queue may hold. -/
inductive Capacity where
  /-- At most this many. -/
  | bounded (size : Nat)
  /-- Any number. -/
  | unbounded
  deriving DecidableEq, Repr

namespace Capacity

/-- The capacity meant by a configured size, where zero stands for no bound. -/
def ofSize (size : Nat) : Capacity := if size = 0 then unbounded else bounded size

/-- How a capacity is shown in the log. -/
def describe : Capacity → String
  | bounded size => s!"Bounded({size})"
  | unbounded => "Unbounded"

/-- The portable form. -/
def toValue : Capacity → Value
  | bounded size => .object [("bounded", .nat size)]
  | unbounded => .str "unbounded"

/-- Reads the portable form. -/
def ofValue? (value : Value) : Option Capacity :=
  match Decoder.choice value with
  | some ("unbounded", payload) => if Decoder.bare payload then some unbounded else none
  | some ("bounded", some size) => (Decoder.unsigned 64 size).map bounded
  | _ => none

end Capacity

/-! ## Queues -/

/-- A queue of tokens, oldest first. -/
structure Queue where
  /-- How many tokens may be queued. -/
  capacity : Capacity
  /-- The queued tokens, those handed out included. -/
  tokens : List Token := []
  /-- How many tokens were handed out since the last commit or cancel. -/
  pending : Nat := 0

namespace Queue

/-- An empty queue. -/
def new (capacity : Capacity) : Queue := { capacity }

instance : Inhabited Queue := ⟨new .unbounded⟩

/-- The number of queued tokens. -/
def length (queue : Queue) : Nat := queue.tokens.length

/-- Whether nothing is queued. -/
def isEmpty (queue : Queue) : Bool := queue.tokens.isEmpty

/-- The number of tokens past the cursor. -/
def available (queue : Queue) : Nat := queue.length - queue.pending

/-- Whether at least `count` tokens lie past the cursor. -/
def tokensAvailable (queue : Queue) (count : Nat) : Bool := count ≤ queue.available

/-- Whether at least `count` more tokens can be written. -/
def slotsAvailable (queue : Queue) (count : Nat) : Bool :=
  match queue.capacity with
  | .bounded size => count ≤ size - queue.length
  | .unbounded => true

/-- Hands out the next `count` tokens and moves the cursor over them; nothing happens if there are
fewer. -/
def peek (queue : Queue) (count : Nat) : Queue × Option (List Token) :=
  if queue.tokensAvailable count then
    ({ queue with pending := queue.pending + count },
      some ((queue.tokens.drop queue.pending).take count))
  else (queue, none)

/-- Removes every token that was handed out, and says how many these are. -/
def commit (queue : Queue) : Queue × Nat :=
  ({ queue with tokens := queue.tokens.drop queue.pending, pending := 0 }, queue.pending)

/-- Moves the cursor back to the first token. -/
def cancel (queue : Queue) : Queue := { queue with pending := 0 }

/-- Appends a token; the answer is `none` if the queue is full. -/
def write? (queue : Queue) (token : Token) : Option Queue :=
  if queue.slotsAvailable 1 then some { queue with tokens := queue.tokens ++ [token] } else none

/-- Takes every token past the cursor. -/
def drain (queue : Queue) : Queue × List Token :=
  ({ queue with tokens := queue.tokens.take queue.pending }, queue.tokens.drop queue.pending)

/-- Equality of queues, the cursor included. -/
def same (a b : Queue) : Bool :=
  a.capacity == b.capacity && a.pending == b.pending && a.tokens.length == b.tokens.length &&
    (a.tokens.zip b.tokens).all fun (x, y) => x.same y

/-! ## The portable form -/

/-- The portable form, in which the cursor is left out. -/
def toValue (queue : Queue) : Value :=
  .object [("capacity", queue.capacity.toValue), ("tokens", .arr (queue.tokens.map Token.toValue))]

/-- Reads the portable form.  There may be more tokens than the capacity allows. -/
def ofValue? (value : Value) : Option Queue :=
  match Decoder.record ["capacity", "tokens"] value with
  | some [capacity, tokens] =>
    (Capacity.ofValue? capacity).bind fun capacity =>
      (Decoder.list Token.ofValue? tokens).map fun tokens => { capacity, tokens }
  | _ => none

end Queue

end Dataflow
