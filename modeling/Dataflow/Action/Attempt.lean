import Dataflow.Action.Basic
import Dataflow.Action.Report

/-!
# One attempt to fire

For a candidate action, in this order: the guard, the availability of all tokens and places, the
peek, the body, the check of what it produced, and then the commit with the writes or the cancel.
Nothing shows on the ports unless all of it succeeds.
-/

namespace Dataflow

/-! ## Outcomes -/

/-- Why a candidate does not fire. -/
inductive Skip where
  | guard
  | tokens (port : String)
  | slots (port : String)
  | inputGuard
  | declined
  deriving DecidableEq, Repr

/-- The text of a reason. -/
def Skip.text : Skip → String
  | guard => "guard is false"
  | tokens port => s!"not enough tokens on '{port}'"
  | slots port => s!"not enough free slots on '{port}'"
  | inputGuard => "input guard rejected the peeked values"
  | declined => "body declined"

/-- What comes of an attempt. -/
inductive Attempt where
  | fired (firing : Firing)
  | skipped (reason : Skip)

/-- Where a step leaves the actor's state and the ports, and what came of it. -/
structure Outcome (S P α : Type) where
  state : S
  ports : P
  result : Except FiringError α

/-- What the body of an action comes to once it is checked. -/
inductive Verdict where
  /-- The declared number of values. -/
  | produced (values : List Value)
  /-- The action does not fire after all. -/
  | skipped (reason : Skip)

namespace Action

variable {S P : Type}

/-! ## Ports -/

/-- Asks for each demand in turn, until one is refused; its port is the answer. -/
def firstRefused (ask : P → String → Nat → P × Except PortError Bool) :
    List PortCount → P → P × Except PortError (Option String)
  | [], ports => (ports, .ok none)
  | demand :: rest, ports =>
    match ask ports demand.port demand.count with
    | (ports, .error e) => (ports, .error e)
    | (ports, .ok false) => (ports, .ok (some demand.port))
    | (ports, .ok true) => firstRefused ask rest ports

variable [PortAccess P]

/-- Peeks the declared inputs in order; their tokens follow one another. -/
def peekAll (actor : ActorRef) : List PortCount → P → P × Except PortError (List Token)
  | [], ports => (ports, .ok [])
  | input :: rest, ports =>
    match PortAccess.peek ports actor input.port input.count with
    | (ports, .error e) => (ports, .error e)
    | (ports, .ok tokens) =>
      let (ports, more) := peekAll actor rest ports
      (ports, more.map (tokens ++ ·))

/-- The values cut into consecutive slices by the declared counts, each value with its port. -/
def assign : List PortCount → List Value → List (String × Value)
  | [], _ => []
  | output :: rest, values =>
    (values.take output.count).map (output.port, ·) ++ assign rest (values.drop output.count)

/-- Writes values to their ports, in order, as data tokens. -/
def writeAll (actor : ActorRef) : List (String × Value) → P → P × Except PortError Unit
  | [], ports => (ports, .ok ())
  | (port, value) :: rest, ports =>
    match PortAccess.write ports actor port (.data value) with
    | (ports, .error e) => (ports, .error e)
    | (ports, .ok ()) => writeAll actor rest ports

/-- Cancels the peeks after a failure.  A failure to cancel is reported and changes nothing
else. -/
def abandon (actor : ActorRef) (names : List String) (ports : P) : Logged P :=
  match PortAccess.cancel ports actor names with
  | (ports, .ok ()) => pure ports
  | (ports, .error e) => do
    Logged.report .error .selection ("Failed to cancel peek: " ++ e.message)
      [("actor", .str actor.id)]
    pure ports

/-! ## The body -/

/-- What an action's result comes to: a decline, or the declared number of values. -/
def check (actor : ActorRef) (action : Action S) (result : ActionResult) :
    Logged (Except FiringError Verdict) :=
  let settle (values : List Value) : Logged (Except FiringError Verdict) :=
    let expected := action.outputArity
    let produced := values.length
    if produced = expected then pure (.ok (.produced values))
    else do
      Logged.report .error .selection "Invalid production"
        [("actor", .str actor.id), ("action", .str action.name), ("expected", .nat expected),
          ("produced", .nat produced)]
      pure (.error (.invalidProduction actor action.name expected produced))
  match result with
  | .fired false => pure (.ok (.skipped .declined))
  | .fired true => settle []
  | .produced values => settle values

/-- Hands the peeked tokens to the actor.  If one is an exception token, the first of these goes to
the exception handler; otherwise the values go to the input guard and the body. -/
def invoke (behaviour : Behaviour S) (action : Action S) (state : S) (tokens : List Token) :
    Logged (S × Except FiringError Verdict) :=
  let actor := behaviour.actor
  match tokens.findSome? Token.reason? with
  | some reason => do
    match ← behaviour.onException state action.name reason with
    | (state, .error source) => do
      Logged.report .error .selection ("Unhandled exception token: " ++ source.chain)
        [("actor", .str actor.id), ("action", .str action.name), ("reason", .str reason)]
      pure (state, .error (.unhandledException actor action.name reason source))
    | (state, .ok result) => do
      let verdict ← action.check actor result
      pure (state, verdict)
  | none => do
    let values := tokens.filterMap Token.value?
    if action.accepts state values then
      match ← action.body state values with
      | (state, .error source) => do
        Logged.report .error .selection ("Action failed: " ++ source.chain)
          [("actor", .str actor.id), ("action", .str action.name)]
        pure (state, .error (.actionFailed actor action.name source))
      | (state, .ok result) => do
        let verdict ← action.check actor result
        pure (state, verdict)
    else pure (state, .ok (.skipped .inputGuard))

/-! ## The attempt -/

/-- Consumes the peeked inputs and writes the outputs. -/
def complete (behaviour : Behaviour S) (priority : Nat) (action : Action S) (consumed : Nat)
    (values : List Value) (state : S) (ports : P) : Logged (Outcome S P Attempt) :=
  let actor := behaviour.actor
  match PortAccess.commit ports actor (PortCount.ports action.inputs) with
  | (ports, .error e) => pure ⟨state, ports, .error (.port e)⟩
  | (ports, .ok exhausted) =>
    match writeAll actor (assign action.outputs values) ports with
    | (ports, .error e) => pure ⟨state, ports, .error (.port e)⟩
    | (ports, .ok ()) => do
      let produced := action.outputArity
      Logged.report .trace .selection "Fired"
        [("actor", .str actor.id), ("action", .str action.name), ("priority", .nat priority),
          ("consumed", .nat consumed), ("produced", .nat produced)]
      let firing : Firing := { action := action.name, priority, consumed, produced, exhausted }
      pure ⟨state, ports, .ok (.fired firing)⟩

/-- Peeks the inputs and lets the actor decide. -/
def proceed (behaviour : Behaviour S) (priority : Nat) (action : Action S) (state : S)
    (ports : P) : Logged (Outcome S P Attempt) :=
  let actor := behaviour.actor
  let names := PortCount.ports action.inputs
  match peekAll actor action.inputs ports with
  | (ports, .error e) => do
    let ports ← abandon actor names ports
    pure ⟨state, ports, .error (.port e)⟩
  | (ports, .ok tokens) => do
    match ← action.invoke behaviour state tokens with
    | (state, .error e) => do
      let ports ← abandon actor names ports
      pure ⟨state, ports, .error e⟩
    | (state, .ok (.skipped reason)) =>
      match PortAccess.cancel ports actor names with
      | (ports, .error e) => pure ⟨state, ports, .error (.port e)⟩
      | (ports, .ok ()) => pure ⟨state, ports, .ok (.skipped reason)⟩
    | (state, .ok (.produced values)) =>
      action.complete behaviour priority tokens.length values state ports

/-- Attempts to fire an action. -/
def tryFire (behaviour : Behaviour S) (priority : Nat) (action : Action S) (state : S)
    (ports : P) : Logged (Outcome S P Attempt) :=
  let actor := behaviour.actor
  if action.open? state then
    match firstRefused (PortAccess.tokensAvailable · actor) (PortCount.totals action.inputs)
      ports with
    | (ports, .error e) => pure ⟨state, ports, .error (.port e)⟩
    | (ports, .ok (some port)) => pure ⟨state, ports, .ok (.skipped (.tokens port))⟩
    | (ports, .ok none) =>
      match firstRefused (PortAccess.slotsAvailable · actor) (PortCount.totals action.outputs)
        ports with
      | (ports, .error e) => pure ⟨state, ports, .error (.port e)⟩
      | (ports, .ok (some port)) => pure ⟨state, ports, .ok (.skipped (.slots port))⟩
      | (ports, .ok none) => action.proceed behaviour priority state ports
  else pure ⟨state, ports, .ok (.skipped .guard)⟩

end Action

end Dataflow
