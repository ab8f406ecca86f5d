import Dataflow.Port.Demand
import Dataflow.Token

/-!
# Access to ports

What the firing engine asks of a store of port queues.  Reading is a transaction of three
operations: `peek` hands out tokens without consuming them, `commit` consumes everything that was
handed out, `cancel` forgets it.  An answer `true` of `slotsAvailable` is a promise: the next
writes to that port, as many as were asked for, succeed, also after a commit on ports of the same
actor.

An operation answers the store it leaves behind also when it fails.
-/

namespace Dataflow

/-! ## Sets of names -/

/-- A finite set of names. -/
abbrev NameSet := KeyMap Unit

namespace NameSet

/-- The set with a name added. -/
def add (names : NameSet) (name : String) : NameSet := names.insert name ()

/-- The names of either set. -/
def union (names more : NameSet) : NameSet := more.keys.foldl add names

/-- The names, in order. -/
def toList (names : NameSet) : List String := names.keys

end NameSet

/-! ## Failures -/

/-- Why a store of ports refuses an operation. -/
inductive PortError where
  /-- The actor has no such port in this direction. -/
  | unknownPort (actor : ActorRef) (port : String) (direction : Direction)
  /-- The store has no ports of this actor. -/
  | unknownActor (actor : ActorRef)
  /-- More tokens are asked for than can be read. -/
  | insufficientTokens (actor : ActorRef) (port : String) (requested available : Nat)
  /-- There is no room for another token. -/
  | queueFull (actor : ActorRef) (port : String)
  /-- The actor has such a port already. -/
  | duplicatePort (actor : ActorRef) (port : String) (direction : Direction)
  deriving DecidableEq, Repr

namespace PortError

/-- The text of the error. -/
def message : PortError → String
  | unknownPort actor port direction =>
    s!"actor '{actor.id}' has no {direction.name}-port named '{port}'"
  | unknownActor actor => s!"no ports registered for actor '{actor.id}'"
  | insufficientTokens actor port requested available =>
    s!"port '{port}' of actor '{actor.id}' holds {available} readable tokens, {requested} requested"
  | queueFull actor port => s!"port '{port}' of actor '{actor.id}' is full"
  | duplicatePort actor port direction =>
    s!"actor '{actor.id}' already has a {direction.name}-port named '{port}'"

end PortError

/-! ## The operations -/

/-- A store of port queues as the engine sees it. -/
class PortAccess (P : Type) where
  /-- Whether at least so many tokens of an in-port can be handed out. -/
  tokensAvailable : P → ActorRef → String → Nat → P × Except PortError Bool
  /-- Whether an out-port has room for at least so many tokens. -/
  slotsAvailable : P → ActorRef → String → Nat → P × Except PortError Bool
  /-- Hands out the next tokens of an in-port. -/
  peek : P → ActorRef → String → Nat → P × Except PortError (List Token)
  /-- Consumes what was handed out on the in-ports, and says which of them are empty then. -/
  commit : P → ActorRef → List String → P × Except PortError NameSet
  /-- Forgets what was handed out on the in-ports. -/
  cancel : P → ActorRef → List String → P × Except PortError Unit
  /-- Appends a token to an out-port. -/
  write : P → ActorRef → String → Token → P × Except PortError Unit

end Dataflow
