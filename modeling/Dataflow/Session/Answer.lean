import Dataflow.Actor.Lifecycle
import Dataflow.Port.Store

/-!
# Answers

What a session answers to a command: a value or a problem, and views of what the command may have
changed.
-/

namespace Dataflow

/-! ## Problems -/

/-- A failure by its kind, with its text and the causes behind it. -/
structure Problem where
  kind : String
  message : Option String := none
  source : Option String := none

namespace Problem

/-- The members of an answer that tell of the problem. -/
def members (problem : Problem) : List (String × Value) :=
  [("error", .str problem.kind)] ++
    (problem.message.map fun text => ("message", Value.str text)).toList ++
    (problem.source.map fun text => ("source", Value.str text)).toList

/-- The problem as an object. -/
def toValue (problem : Problem) : Value := .object problem.members

/-- Something that was to be decoded is not of its form. -/
def decode : Problem := { kind := "Decode" }

/-- The command makes no sense here. -/
def badInput : Problem := { kind := "BadInput" }

end Problem

/-- The kind of an error. -/
def PortError.kind : PortError → String
  | unknownPort .. => "UnknownPort"
  | unknownActor .. => "UnknownActor"
  | insufficientTokens .. => "InsufficientTokens"
  | queueFull .. => "QueueFull"
  | duplicatePort .. => "DuplicatePort"

/-- The error as a problem. -/
def PortError.problem (e : PortError) : Problem := { kind := e.kind, message := some e.message }

/-- The kind of an error. -/
def CapabilityError.kind : CapabilityError → String
  | notFound .. => "NotFound"
  | alreadyRegistered .. => "AlreadyRegistered"
  | unknownHandle .. => "UnknownHandle"
  | openFailed .. => "OpenFailed"
  | notReadable .. => "NotReadable"
  | notWritable .. => "NotWritable"
  | io .. => "Io"

/-- The error as a problem. -/
def CapabilityError.problem (e : CapabilityError) : Problem where
  kind := e.kind
  message := some e.message
  source := e.source?.map Failure.chain

/-- The kind of an error. -/
def SnapshotError.kind : SnapshotError → String
  | notRepresentable .. => "NotRepresentable"
  | missingField .. => "MissingField"
  | unexpectedField .. => "UnexpectedField"
  | notAnObject .. => "NotAnObject"
  | decode .. => "Decode"
  | typeMismatch .. => "TypeMismatch"

/-- The error as a problem. -/
def SnapshotError.problem (e : SnapshotError) : Problem where
  kind := e.kind
  message := some e.message
  source := e.source?

/-- The error as a problem; one of restored state is named as such. -/
def LifecycleError.problem (e : LifecycleError) : Problem where
  kind :=
    match e with
    | config _ => "Config"
    | hook .. => "Hook"
    | snapshot e => "Snapshot:" ++ e.kind
  message := some e.message
  source := e.source?

/-- The error as a problem; one of the ports is named as such. -/
def FiringError.problem (e : FiringError) : Problem where
  kind :=
    match e with
    | invalidProduction .. => "InvalidProduction"
    | actionFailed .. => "ActionFailed"
    | unhandledException .. => "UnhandledException"
    | port e => "Port:" ++ e.kind
  message := some e.message
  source := e.source?.map Failure.chain

/-! ## Results as values -/

/-- Tokens as a list. -/
def Token.listValue (tokens : List Token) : Value := .arr (tokens.map Token.toValue)

/-- A handle as an object. -/
def Handle.toValue (handle : Handle) : Value :=
  .object [("name", .str handle.name), ("id", .nat handle.id)]

/-- Reads a handle from an object. -/
def Handle.ofValue? (value : Value) : Option Handle :=
  match Decoder.record ["name", "id"] value with
  | some [name, id] =>
    (Decoder.string name).bind fun name => (Decoder.unsigned 64 id).map fun id => { name, id }
  | _ => none

/-- Handles as they are shown. -/
def Handle.listValue (handles : List Handle) : Value := .strings (handles.map Handle.text)

/-- Declared ports as a list of pairs. -/
def PortCount.listValue (ports : List PortCount) : Value :=
  .arr (ports.map fun entry => .arr [.str entry.port, .nat entry.count])

/-- An action by its declarations. -/
def Action.toValue {S : Type} (action : Action S) : Value :=
  .object
    [("name", .str action.name), ("consumes", PortCount.listValue action.inputs),
      ("produces", PortCount.listValue action.outputs), ("arity", .nat action.outputArity)]

/-- A firing as an object. -/
def Firing.toValue (firing : Firing) : Value :=
  .object
    [("action", .str firing.action), ("priority", .nat firing.priority),
      ("consumed", .nat firing.consumed), ("produced", .nat firing.produced),
      ("exhausted", .strings firing.exhausted.toList)]

/-- A report as an object. -/
def FireReport.toValue (report : FireReport) : Value :=
  .object
    [("firings", .arr (report.firings.map Firing.toValue)),
      ("exhausted", .strings report.exhausted.toList), ("fired", .bool report.fired),
      ("actions", .strings report.actions)]

/-- An event by its level, text and fields. -/
def Event.toValue (event : Event) : Value :=
  .object
    [("level", .str event.level.name), ("message", .str event.message),
      ("fields", .object event.fields)]

/-! ## Views -/

/-- A queue as it is seen, with its pending peek. -/
def Queue.view (queue : Queue) : Value :=
  .object
    [("capacity", queue.capacity.toValue), ("pending", .nat queue.pending),
      ("tokens", Token.listValue queue.tokens)]

/-- The ports of an actor as they are seen, null if it has none. -/
def PortStore.view (store : PortStore) (actor : ActorRef) : Value :=
  match store.ports? actor with
  | none => .null
  | some ports =>
    .object
      [("in", .obj (ports.inputs.mapValues Queue.view).entries),
        ("out", .obj (ports.outputs.mapValues Queue.view).entries)]

/-! ## Answers -/

/-- The answer to a command. -/
structure Answer where
  result : Except Problem Value
  /-- Views of what the command may have changed, by name. -/
  views : List (String × Value) := []

namespace Answer

/-- An answer without a view. -/
def ok (value : Value) : Answer := { result := .ok value }

/-- A problem without a view. -/
def problem (problem : Problem) : Answer := { result := .error problem }

/-- The answer for a result. -/
def ofExcept {ε α : Type} (toProblem : ε → Problem) (toValue : α → Value) :
    Except ε α → Except Problem Value
  | .ok a => .ok (toValue a)
  | .error e => .error (toProblem e)

/-- The answer as an object. -/
def toValue (answer : Answer) : Value :=
  .object <|
    (match answer.result with
      | .ok value => [("ok", value)]
      | .error problem => problem.members) ++ answer.views

end Answer

end Dataflow
