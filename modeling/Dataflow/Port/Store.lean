import Dataflow.Log.Event
import Dataflow.Port.Access
import Dataflow.Port.Set

/-!
# Stores of ports

The ports of any number of actors, held in memory.  Besides the operations of the engine, a store
lets its host add ports, deliver tokens to in-ports, take them off out-ports, pass them on from one
actor to another, and detach and attach the port set of an actor that moves.  An operation that
fails leaves the store as it was, except that a cancel reaches every port that exists.
-/

namespace Dataflow

/-- The port sets of actors, by the actor's identity. -/
structure PortStore where
  actors : KeyMap PortSet := ∅

namespace PortStore

instance : Inhabited PortStore := ⟨{}⟩

/-! ## Finding queues -/

/-- The ports of an actor. -/
def ports? (store : PortStore) (actor : ActorRef) : Option PortSet := store.actors.get? actor.id

/-- The queue of a port. -/
def queue (store : PortStore) (actor : ActorRef) (direction : Direction) (port : String) :
    Except PortError Queue :=
  match store.ports? actor with
  | none => .error (.unknownActor actor)
  | some ports =>
    match (ports.side direction).get? port with
    | none => .error (.unknownPort actor port direction)
    | some queue => .ok queue

/-- Puts a port set in the place of an actor's. -/
def setPorts (store : PortStore) (actor : ActorRef) (ports : PortSet) : PortStore where
  actors := store.actors.insert actor.id ports

/-- Puts a queue in the place of a port's. -/
def setQueue (store : PortStore) (actor : ActorRef) (direction : Direction) (port : String)
    (queue : Queue) : PortStore :=
  store.setPorts actor (((store.ports? actor).getD {}).setQueue direction port queue)

/-- Lets a function work on the queue of a port. -/
def onQueue {α : Type} (store : PortStore) (actor : ActorRef) (direction : Direction)
    (port : String) (work : Queue → Queue × Except PortError α) :
    PortStore × Except PortError α :=
  match store.queue actor direction port with
  | .error e => (store, .error e)
  | .ok queue =>
    let (queue, answer) := work queue
    (store.setQueue actor direction port queue, answer)

/-- Writes to a queue, if it has room. -/
def append (actor : ActorRef) (port : String) (token : Token) (queue : Queue) :
    Queue × Except PortError Unit :=
  match queue.write? token with
  | some queue => (queue, .ok ())
  | none => (queue, .error (.queueFull actor port))

/-! ## The host's operations -/

/-- Adds a port.  An actor of which nothing is known gets an entry first.  Without a capacity the
port gets the one of the settings, `size`. -/
def addPort (size : Nat) (store : PortStore) (actor : ActorRef) (direction : Direction)
    (port : String) (capacity : Option Capacity) : Logged (PortStore × Except PortError Unit) :=
  let ports := (store.ports? actor).getD {}
  let store := store.setPorts actor ports
  if (ports.side direction).contains port then
    pure (store, .error (.duplicatePort actor port direction))
  else do
    let capacity ←
      match capacity with
      | some capacity => pure capacity
      | none => do
        Logged.useSettings
        pure (Capacity.ofSize size)
    Logged.report .debug .ports "Adding port"
      [("actor", .str actor.id), ("port", .str port), ("direction", .str direction.name),
        ("capacity", .str capacity.describe)]
    pure (store.setPorts actor (ports.setQueue direction port (Queue.new capacity)), .ok ())

/-- Appends a token to an in-port, as a connected peer does. -/
def deliver (store : PortStore) (actor : ActorRef) (port : String) (token : Token) :
    PortStore × Except PortError Unit :=
  store.onQueue actor .input port (append actor port token)

/-- Takes every token off an out-port. -/
def drain (store : PortStore) (actor : ActorRef) (port : String) :
    PortStore × Except PortError (List Token) :=
  store.onQueue actor .output port fun queue =>
    let (queue, tokens) := queue.drain
    (queue, .ok tokens)

/-- The tokens queued on a port. -/
def queued (store : PortStore) (actor : ActorRef) (direction : Direction) (port : String) :
    Except PortError (List Token) :=
  (store.queue actor direction port).map Queue.tokens

/-- Takes the next token off an out-port, if the in-port has room for it and there is one.  The
answer is `none` if nothing can be moved. -/
def moveOne (store : PortStore) (source : ActorRef × String) (target : ActorRef × String) :
    Except PortError (Option PortStore) := do
  let room := (← store.queue target.1 .input target.2).slotsAvailable 1
  let queue ← store.queue source.1 .output source.2
  if room && queue.tokensAvailable 1 then
    let (queue, taken) := queue.peek 1
    let store := store.setQueue source.1 .output source.2 queue.commit.1
    match taken.bind List.getLast? with
    | none => .ok (some store)
    | some token =>
      let (store, answer) := store.deliver target.1 target.2 token
      answer.map fun _ => some store
  else .ok none

/-- Moves tokens one by one, at most `limit` of them. -/
def moveUpTo (source : ActorRef × String) (target : ActorRef × String) :
    Nat → PortStore → Nat → PortStore × Except PortError Nat
  | 0, store, moved => (store, .ok moved)
  | limit + 1, store, moved =>
    match store.moveOne source target with
    | .error e => (store, .error e)
    | .ok none => (store, .ok moved)
    | .ok (some next) => moveUpTo source target limit next (moved + 1)

/-- Moves as many tokens as fit from an out-port to an in-port and says how many these were.  Each
round takes one token off the source, so its length bounds the rounds. -/
def transmit (store : PortStore) (source : ActorRef × String) (target : ActorRef × String) :
    Logged (PortStore × Except PortError Nat) :=
  match store.queue target.1 .input target.2, store.queue source.1 .output source.2 with
  | .error e, _ => pure (store, .error e)
  | .ok _, .error e => pure (store, .error e)
  | .ok _, .ok queue =>
    match moveUpTo source target queue.length store 0 with
    | (store, .error e) => pure (store, .error e)
    | (store, .ok moved) => do
      Logged.report .trace .ports "Transmitted tokens"
        [("from_actor", .str source.1.id), ("from_port", .str source.2),
          ("to_actor", .str target.1.id), ("to_port", .str target.2), ("moved", .nat moved)]
      pure (store, .ok moved)

/-- Removes the ports of an actor, to take them elsewhere. -/
def detach (store : PortStore) (actor : ActorRef) : PortStore × Option PortSet :=
  ({ actors := store.actors.erase actor.id }, store.ports? actor)

/-- Installs a port set for an actor; a pending peek does not survive the move. -/
def attach (store : PortStore) (actor : ActorRef) (ports : PortSet) : PortStore :=
  store.setPorts actor ports.settle

/-! ## The engine's operations -/

/-- Whether an in-port has so many tokens past its cursor. -/
def tokensAvailable (store : PortStore) (actor : ActorRef) (port : String) (count : Nat) :
    Except PortError Bool :=
  (store.queue actor .input port).map (Queue.tokensAvailable · count)

/-- Whether an out-port has so many free places. -/
def slotsAvailable (store : PortStore) (actor : ActorRef) (port : String) (count : Nat) :
    Except PortError Bool :=
  (store.queue actor .output port).map (Queue.slotsAvailable · count)

/-- Hands out the next tokens of an in-port, all or none. -/
def peek (store : PortStore) (actor : ActorRef) (port : String) (count : Nat) :
    PortStore × Except PortError (List Token) :=
  store.onQueue actor .input port fun queue =>
    match queue.peek count with
    | (queue, some tokens) => (queue, .ok tokens)
    | (queue, none) => (queue, .error (.insufficientTokens actor port count queue.available))

/-- Commits the in-ports in turn; all of them exist. -/
def commitEach (actor : ActorRef) : List String → PortStore → NameSet → PortStore × NameSet
  | [], store, exhausted => (store, exhausted)
  | port :: rest, store, exhausted =>
    match store.queue actor .input port with
    | .error _ => commitEach actor rest store exhausted
    | .ok queue =>
      let queue := queue.commit.1
      let exhausted := if queue.isEmpty then exhausted.add port else exhausted
      commitEach actor rest (store.setQueue actor .input port queue) exhausted

/-- Commits in-ports.  Every name is looked up first, so an unknown one commits nothing. -/
def commit (store : PortStore) (actor : ActorRef) (ports : List String) :
    PortStore × Except PortError NameSet :=
  match ports.forM fun port => (store.queue actor .input port).map fun _ => () with
  | .error e => (store, .error e)
  | .ok () =>
    let (store, exhausted) := commitEach actor ports store ∅
    (store, .ok exhausted)

/-- Cancels the peeks of every in-port that exists; the first unknown name is the error. -/
def cancel (store : PortStore) (actor : ActorRef) : List String → PortStore × Except PortError Unit
  | [] => (store, .ok ())
  | port :: rest =>
    match store.queue actor .input port with
    | .error e => ((cancel store actor rest).1, .error e)
    | .ok queue => cancel (store.setQueue actor .input port queue.cancel) actor rest

/-- Appends a token to an out-port. -/
def write (store : PortStore) (actor : ActorRef) (port : String) (token : Token) :
    PortStore × Except PortError Unit :=
  store.onQueue actor .output port (append actor port token)

instance : PortAccess PortStore where
  tokensAvailable store actor port count := (store, store.tokensAvailable actor port count)
  slotsAvailable store actor port count := (store, store.slotsAvailable actor port count)
  peek := peek
  commit := commit
  cancel := cancel
  write := write

end PortStore

end Dataflow
