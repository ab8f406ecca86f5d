import Dataflow.Program.Decode
import Dataflow.Session.Answer
import Dataflow.Session.Command

/-!
# Reading commands

A command is an object: `do` says what is to be done, the other members with what.
-/

namespace Dataflow

/-! ## Parts -/

/-- Reads a token: an exception by its reason, a token in its portable form, or the value of a data
token, whichever is given, in this order. -/
def Token.given? (command : Value) : Option Token :=
  match command.member? "exception", command.member? "token" with
  | some reason, _ => some (.exception reason.text)
  | none, some form => Token.ofValue? form
  | none, none => some (.data (command.field "value"))

/-- Reads a capacity: null for the one of the settings, a size, or the portable form. -/
def Capacity.given? (value : Value) : Option (Option Capacity) :=
  match value.member? "size" with
  | some size => some (some (.ofSize size.count))
  | none =>
    match value with
    | .null => some none
    | _ => (Capacity.ofValue? value).map some

/-- Reads a direction. -/
def Direction.given (value : Value) : Direction :=
  if value.text = "out" then .output else .input

/-- Reads a handle: an alias, or the portable form. -/
def HandleName.given : Value → HandleName
  | .str label => .held label
  | value => ((Handle.ofValue? value).map HandleName.form).getD .undecodable

/-- Reads names. -/
def Value.texts (value : Value) : List String := value.items.map Value.text

/-- Reads operations to refuse. -/
def Value.faults (value : Value) : List (String × Nat) :=
  value.items.map fun fault =>
    let args : Operands := ⟨fault.items⟩
    (args.text 0, args.count 1)

/-- Reads a reading of a sensor, which may be one that no value holds. -/
def Binary64.given? : Value → Option Binary64
  | .str "NaN" => some .nan
  | .str "inf" => some (.infinite false)
  | .str "-inf" => some (.infinite true)
  | .str "-0.0" => some ⟨true, 0⟩
  | value => value.asFloat?

/-! ## Commands -/

/-- Reads a command about ports. -/
def PortCommand.given? (command : Value) : Option PortCommand :=
  let port := (command.field "port").text
  let count := (command.field "n").count
  let direction := Direction.given (command.field "dir")
  let names := (command.field "ports").texts
  let token (use : Token → PortCommand) : PortCommand :=
    ((Token.given? command).map use).getD .undecodable
  match (command.field "do").text with
  | "port" =>
    some (((Capacity.given? (command.field "capacity")).map (.add direction port)).getD
      .undecodable)
  | "deliver" => some (token (.deliver port))
  | "write" => some (token (.write port))
  | "deliver_all" => some (.deliverAll port (command.field "values").items)
  | "drain" => some (.drain port)
  | "queued" => some (.queued direction port)
  | "tokens_available" => some (.tokensAvailable port count)
  | "slots_available" => some (.slotsAvailable port count)
  | "peek" => some (.peek port count)
  | "commit" => some (.commit names)
  | "cancel" => some (.cancel names)
  | "transmit" =>
    some (.transmit port ⟨(command.field "to_actor").text⟩ (command.field "to_port").text)
  | "detach" => some (.detach (command.field "as").text)
  | "attach" =>
    match command.member? "from" with
    | some name => some (.attachKept name.text)
    | none =>
      some (((PortSet.ofValue? (command.field "form")).map .attach).getD .undecodable)
  | "ports" => some .view
  | _ => none

/-- Reads a command about the registry. -/
def RegistryCommand.given? (command : Value) : Option RegistryCommand :=
  let name := (command.field "name").text
  match (command.field "do").text with
  | "register" =>
    match (command.field "kind").text with
    | "script" => some (.addScript name)
    | "broken" => some (.add name (.broken (command.field "message").text))
    | "inert" => some (.add name .inert)
    | "ready" => some (.add name .ready)
    | "echo" => some (.add name .echo)
    | _ => none
  | "unregister" => some (.remove name)
  | "contains" => some (.contains name)
  | "require" => some (.require (command.field "names").texts)
  | "registry" => some .view
  | "script" =>
    let writable :=
      match command.field "writable" with
      | .bool b => some b
      | _ => none
    some (.script name (command.field "push").items writable)
  | _ => none

/-- Reads a command about a table of capabilities. -/
def TableCommand.given? (command : Value) : Option TableCommand :=
  let handle := HandleName.given (command.field "handle")
  match (command.field "do").text with
  | "bind" => some (.bind ⟨(command.field "actor").text⟩)
  | "open" =>
    some (.openCapability (command.field "name").text (command.field "config")
      (command.field "as").text)
  | "handles" => some .handles
  | "close_all" => some .closeAll
  | "can_read" => some (.canRead handle)
  | "can_write" => some (.canWrite handle)
  | "read" => some (.read handle)
  | "put" => some (.write handle (command.field "value"))
  | "close" => some (.close handle)
  | "name" => some (.name handle)
  | _ => none

/-- Reads how an actor is to be fired. -/
def FireOptions.given (command : Value) : FireOptions where
  store := (command.field "store").text
  mode :=
    match command.member? "faults" with
    | some faults => .watched faults.faults
    | none =>
      if (command.field "trace").same (.bool true) then .watched []
      else if (command.field "report").same (.bool false) then .fired
      else .report

/-- Reads a command to an actor. -/
def ActorCommand.given? (command : Value) : Option ActorCommand :=
  match (command.field "do").text with
  | "init" => some (.start (command.field "config"))
  | "restore" =>
    match command.member? "from" with
    | some name => some (.restoreSaved name.text)
    | none =>
      some (((Snapshot.ofValue? (command.field "snapshot")).map .restore).getD .undecodable)
  | "fire" => some (.fire (.given command))
  | "snapshot" => some (.capture ((command.member? "as").map Value.text))
  | "will_migrate" => some .prepareMove
  | "did_migrate" => some .resume
  | "end" => some .finish
  | "actions" => some .actions
  | "set_state" => some (.setState (command.field "state"))
  | "poke" =>
    let value := command.field "value"
    match (command.field "field").text with
    | "reading" => (Binary64.given? value).map .setReading
    | "last" =>
      if value.isNull then some (.setLast none)
      else (Binary64.given? value).map fun x => .setLast (some x)
    | _ => none
  | _ => none

/-- Reads a command.  The name of what is to be done says what the command is about. -/
def Command.given (command : Value) : Command :=
  match PortCommand.given? command with
  | some work =>
    .ports (command.field "store").text ⟨(command.field "actor").text⟩ work
  | none =>
    match RegistryCommand.given? command with
    | some work => .registry work
    | none =>
      match TableCommand.given? command with
      | some work => .table (command.field "table").text work
      | none =>
        match ActorCommand.given? command with
        | some work => .actor (command.field "slot").text work
        | none =>
          if (command.field "do").text = "new" then
            match (Program.ofValue? (command.field "program")).bind
                (Kind.ofName? (command.field "type").text) with
            | some kind =>
              .create (command.field "as").text ⟨(command.field "id").text⟩ kind
            | none => .unknown
          else .unknown

end Dataflow
