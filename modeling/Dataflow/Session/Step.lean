import Dataflow.Port.Tap
import Dataflow.Session.Answer
import Dataflow.Session.Command

/-!
# Sessions

A session keeps everything that commands name, and answers one command after the other.
-/

namespace Dataflow

/-- The state of a session. -/
structure Session where
  settings : Settings := {}
  /-- Stores of ports by name; a store is there, and empty, before it is first used. -/
  stores : KeyMap PortStore := ∅
  registry : Registry DeviceWorld := {}
  world : DeviceWorld := {}
  /-- The place in the world of each registered script. -/
  scripts : KeyMap Nat := ∅
  tables : KeyMap (HandleTable DeviceWorld) := ∅
  /-- Handles by alias. -/
  handles : KeyMap Handle := ∅
  actors : KeyMap Hosted := ∅
  /-- Saved snapshots. -/
  snapshots : KeyMap Snapshot := ∅
  /-- Detached ports. -/
  portSets : KeyMap PortSet := ∅

namespace Session

/-- A store of ports. -/
def store (session : Session) (name : String) : PortStore := (session.stores.get? name).getD {}

/-- Puts a store in its place. -/
def setStore (session : Session) (name : String) (store : PortStore) : Session :=
  { session with stores := session.stores.insert name store }

/-- A unit as an answer. -/
def done : Unit → Value := fun _ => .null

/-! ## Ports -/

/-- Delivers values one by one until one is refused; the answer is how many there were. -/
def deliverEach (actor : ActorRef) (port : String) :
    List Value → Nat → PortStore → PortStore × Except PortError Nat
  | [], count, store => (store, .ok count)
  | value :: rest, count, store =>
    match store.deliver actor port (.data value) with
    | (store, .error e) => (store, .error e)
    | (store, .ok ()) => deliverEach actor port rest (count + 1) store

/-- Answers a command about the ports of an actor, in the store of this name. -/
def portStep (session : Session) (storeName : String) (actor : ActorRef) :
    PortCommand → Logged (Session × Answer) :=
  let store := session.store storeName
  let answer {α : Type} (toValue : α → Value) (result : PortStore × Except PortError α) :
      Session × Answer :=
    (session.setStore storeName result.1,
      { result := Answer.ofExcept PortError.problem toValue result.2,
        views := [("ports", result.1.view actor)] })
  let reply (result : Except Problem Value) : Session × Answer :=
    (session, { result, views := [("ports", store.view actor)] })
  fun
  | .add direction port capacity => do
    let result ← store.addPort session.settings.defaultCapacity actor direction port capacity
    pure (answer done result)
  | .deliver port token => pure (answer done (store.deliver actor port token))
  | .write port token => pure (answer done (store.write actor port token))
  | .deliverAll port values => pure (answer .nat (deliverEach actor port values 0 store))
  | .drain port => pure (answer Token.listValue (store.drain actor port))
  | .queued direction port =>
    pure (answer Token.listValue (store, store.queued actor direction port))
  | .tokensAvailable port count =>
    pure (answer .bool (store, store.tokensAvailable actor port count))
  | .slotsAvailable port count =>
    pure (answer .bool (store, store.slotsAvailable actor port count))
  | .peek port count => pure (answer Token.listValue (store.peek actor port count))
  | .commit ports => pure (answer (fun names => .strings names.toList) (store.commit actor ports))
  | .cancel ports => pure (answer done (store.cancel actor ports))
  | .transmit port target targetPort => do
    let result ← store.transmit (actor, port) (target, targetPort)
    let (session, answer) := answer Value.nat result
    let views := answer.views ++ [("to_ports", result.1.view target)]
    pure (session, { answer with views })
  | .detach keepAs =>
    let (left, ports) := store.detach actor
    let (session, answer) := answer (fun v : Value => v)
      (left, .ok ((ports.map PortSet.toValue).getD .null))
    match ports with
    | none => pure (session, answer)
    | some ports =>
      pure ({ session with portSets := session.portSets.insert keepAs ports }, answer)
  | .attachKept name =>
    match session.portSets.get? name with
    | none => pure (reply (.error .badInput))
    | some ports => pure (answer done (store.attach actor ports, .ok ()))
  | .attach ports => pure (answer done (store.attach actor ports, .ok ()))
  | .view => pure (reply (.ok (((store.ports? actor).map PortSet.toValue).getD .null)))
  | .undecodable => pure (reply (.error .decode))

/-! ## Devices -/

/-- What a script has seen so far. -/
def scriptView (script : Script) : Value :=
  .object
    [("written", .arr script.written), ("pending", .nat script.reads.length),
      ("configs", .arr script.configs), ("opened", .nat script.opened),
      ("closed", .nat script.closed)]

/-- Registers a device. -/
def register (session : Session) (name : String) (device : Device) :
    Logged (Session × Except CapabilityError Unit) := do
  let (registry, result) ← session.registry.register name device.factory
  pure ({ session with registry }, result)

/-- Answers a command about the registry. -/
def registryStep (session : Session) : RegistryCommand → Logged (Session × Answer)
  | .addScript name => do
    let place := session.world.scripts.length
    match ← session.register name (.script place) with
    | (session, .error e) => pure (session, .problem e.problem)
    | (session, .ok ()) =>
      let world := { session.world with scripts := session.world.scripts ++ [{}] }
      pure ({ session with world, scripts := session.scripts.insert name place }, .ok .null)
  | .add name device => do
    let (session, result) ← session.register name device
    pure (session, { result := Answer.ofExcept CapabilityError.problem done result })
  | .remove name =>
    let (registry, found) := session.registry.unregister name
    pure ({ session with registry }, .ok (.bool found))
  | .contains name => pure (session, .ok (.bool (session.registry.contains name)))
  | .require names =>
    let result := session.registry.requireAll names
    pure (session, { result := Answer.ofExcept CapabilityError.problem done result })
  | .view => pure (session, .ok (.str session.registry.describe))
  | .script name push writable =>
    match session.scripts.get? name with
    | none => pure (session, .problem .badInput)
    | some place =>
      let script := push.foldl Script.push (session.world.script place)
      let script := { script with writable := writable.getD script.writable }
      pure ({ session with world := session.world.setScript place script },
        .ok (scriptView script))

/-! ## Tables -/

/-- Puts a context back: its table and its world. -/
def keep (session : Session) (table : String) (context : Context DeviceWorld) : Session :=
  { session with
    tables := session.tables.insert table context.table
    world := context.world }

/-- Answers a command about a table of capabilities. -/
def tableStep (session : Session) (name : String) : TableCommand → Logged (Session × Answer)
  | .bind actor =>
    pure ({ session with tables := session.tables.insert name { actor } }, .ok .null)
  | command =>
    match session.tables.get? name with
    | none => pure (session, .problem .badInput)
    | some table =>
      let context : Context DeviceWorld :=
        { table, registry := session.registry, world := session.world }
      let onHandle (handle : HandleName) (work : Handle → Logged (Session × Answer)) :
          Logged (Session × Answer) :=
        match handle with
        | .form handle => work handle
        | .undecodable => pure (session, .problem .decode)
        | .held label =>
          match session.handles.get? label with
          | some handle => work handle
          | none => pure (session, .problem .badInput)
      match command with
      | .bind _ => pure (session, .problem .badInput)
      | .openCapability capability config label => do
        match ← context.openCapability capability config with
        | (context, .error e) => pure (session.keep name context, .problem e.problem)
        | (context, .ok handle) =>
          let session := session.keep name context
          pure ({ session with handles := session.handles.insert label handle },
            .ok handle.toValue)
      | .handles =>
        pure (session,
          { result := .ok (Handle.listValue context.openHandles),
            views := [("owner", .str table.actor.id)] })
      | .closeAll => do
        let (context, closed) ← context.closeAll
        pure (session.keep name context, .ok (Handle.listValue closed))
      | .canRead handle =>
        onHandle handle fun handle => pure (session, .ok (.bool (context.canRead handle)))
      | .canWrite handle =>
        onHandle handle fun handle => pure (session, .ok (.bool (context.canWrite handle)))
      | .read handle =>
        onHandle handle fun handle =>
          let (context, result) := context.read handle
          pure (session.keep name context,
            { result := Answer.ofExcept CapabilityError.problem (fun v => v) result })
      | .write handle value =>
        onHandle handle fun handle =>
          let (context, result) := context.write handle value
          pure (session.keep name context,
            { result := Answer.ofExcept CapabilityError.problem done result })
      | .close handle =>
        onHandle handle fun handle => do
          let (context, wasOpen) ← context.close handle
          pure (session.keep name context, .ok (.bool wasOpen))
      | .name handle => onHandle handle fun handle => pure (session, .ok (.str handle.name))

/-! ## Actors -/

/-- How many scans one call to fire an actor may take. -/
def scanLimit : Nat := 1000000

/-- The view of a hosted actor: its managed state, or why that cannot be captured, and its open
handles. -/
def hostedView (hosted : Hosted) : Value :=
  let state :=
    match hosted.kind.type.managed.state hosted.self.model with
    | .ok state => state
    | .error e => e.problem.toValue
  .object
    [("state", state), ("handles", Handle.listValue hosted.self.context.openHandles)]

/-- The view of a slot, null if no actor is there. -/
def slotView (session : Session) (slot : String) : Value :=
  ((session.actors.get? slot).map hostedView).getD .null

/-- Creates an actor in a slot; the slot stays as it is if that fails. -/
def create (session : Session) (slot : String) (actor : ActorRef) (kind : Kind) :
    Logged (Session × Answer) := do
  match ← kind.type.create actor session.registry session.world with
  | .error e => pure (session, .problem e.problem)
  | .ok self =>
    let hosted : Hosted := { kind, active := false, self }
    pure ({ session with actors := session.actors.insert slot hosted }, .ok .null)

/-- Puts an actor back into its slot, with the world it leaves behind. -/
def keepActor (session : Session) (slot : String) (hosted : Hosted) : Session :=
  { session with
    actors := session.actors.insert slot hosted
    world := hosted.self.context.world }

/-- Removes an actor, with the world it leaves behind. -/
def dropActor (session : Session) (slot : String) (hosted : Hosted) : Session :=
  { session with
    actors := session.actors.erase slot
    world := hosted.self.context.world }

/-- What a command to an actor comes to: what is left of the actor, and the answer. -/
structure ActorStep where
  session : Session
  answer : Answer

/-- An answer with the view of the slot. -/
def withSlot (slot : String) (session : Session) (answer : Answer) : Session × Answer :=
  (session, { answer with views := answer.views ++ [("actor", session.slotView slot)] })

/-- What came of firing an actor, with the actor's own ports afterwards. -/
def fireAnswer {S P : Type} (summary : FireReport → Value) (store : PortStore) (actor : ActorRef)
    (calls : List (String × Value)) (outcome : Outcome S P FireReport) : Answer where
  result := Answer.ofExcept FiringError.problem summary outcome.result
  views := [("ports", store.view actor)] ++ calls

/-- Fires an actor on a store as it is. -/
def firePlainly (session : Session) (slot : String) (hosted : Hosted) (store : String)
    (summary : FireReport → Value) : Logged (Session × Answer) := do
  match ← hosted.kind.type.fire scanLimit hosted.self (session.store store) with
  | none => pure (session, .problem .badInput)
  | some outcome =>
    let session := session.keepActor slot { hosted with self := outcome.state }
    pure (session.setStore store outcome.ports,
      fireAnswer summary outcome.ports hosted.self.actor [] outcome)

/-- Fires an actor on a store through a tap. -/
def fireWatched (session : Session) (slot : String) (hosted : Hosted) (store : String)
    (faults : List (String × Nat)) : Logged (Session × Answer) := do
  let tap : PortTap := { store := session.store store, faults }
  match ← hosted.kind.type.fire scanLimit hosted.self tap with
  | none => pure (session, .problem .badInput)
  | some outcome =>
    let session := session.keepActor slot { hosted with self := outcome.state }
    let calls := Value.arr (outcome.ports.calls.map PortCall.toValue)
    pure (session.setStore store outcome.ports.store,
      fireAnswer FireReport.toValue outcome.ports.store hosted.self.actor [("calls", calls)]
        outcome)

/-- Fires an actor. -/
def fireStep (session : Session) (slot : String) (hosted : Hosted) (options : FireOptions) :
    Logged (Session × Answer) :=
  match options.mode with
  | .report => firePlainly session slot hosted options.store FireReport.toValue
  | .fired =>
    firePlainly session slot hosted options.store fun report => .bool report.fired
  | .watched faults => fireWatched session slot hosted options.store faults

/-- Starts an idle actor, one way or the other; a failure consumes it. -/
def startWith (session : Session) (slot : String) (hosted : Hosted)
    (start : Instance DeviceWorld hosted.kind.State →
      Logged (Instance DeviceWorld hosted.kind.State × Except LifecycleError Unit)) :
    Logged (Session × Answer) := do
  match ← start hosted.self with
  | (self, .error e) => pure (session.dropActor slot { hosted with self }, .problem e.problem)
  | (self, .ok ()) => pure (session.keepActor slot { hosted with self, active := true }, .ok .null)

/-- Lets an active actor go through a turning point of its life. -/
def passThrough (session : Session) (slot : String) (hosted : Hosted) (stays : Bool)
    (work : Instance DeviceWorld hosted.kind.State →
      Logged (Instance DeviceWorld hosted.kind.State × Except LifecycleError Unit)) :
    Logged (Session × Answer) := do
  let (self, result) ← work hosted.self
  let answer : Answer := { result := Answer.ofExcept LifecycleError.problem done result }
  let after := { hosted with self }
  pure (if stays then session.keepActor slot after else session.dropActor slot after, answer)

/-- Changes the fields of a sensor. -/
def poke (session : Session) (slot : String) (hosted : Hosted)
    (change : Actors.Sensor → Actors.Sensor) : Session × Answer :=
  match hosted with
  | ⟨.sensor, active, self⟩ =>
    (session.keepActor slot ⟨.sensor, active, { self with model := change self.model }⟩, .ok .null)
  | _ => (session, .problem .badInput)

/-- Answers a command to an actor, without the view of its slot. -/
def hostedStep (session : Session) (slot : String) (hosted : Hosted) (command : ActorCommand) :
    Logged (Session × Answer) :=
  let type := hosted.kind.type
  let settings := session.settings
  let hosted :=
    { hosted with
      self := { hosted.self with
        context := { hosted.self.context with
          registry := session.registry, world := session.world } } }
  match command, hosted.active with
  | .start config, false => session.startWith slot hosted fun self => type.start self config
  | .restore snapshot, false =>
    session.startWith slot hosted fun self => type.restore settings self snapshot
  | .restoreSaved name, false =>
    match session.snapshots.get? name with
    | none => pure (session, .problem .badInput)
    | some snapshot =>
      session.startWith slot hosted fun self => type.restore settings self snapshot
  | .fire options, true => session.fireStep slot hosted options
  | .capture saveAs, true =>
    match type.capture hosted.self with
    | .error e => pure (session, .problem e.problem)
    | .ok snapshot =>
      let session :=
        match saveAs with
        | none => session
        | some name => { session with snapshots := session.snapshots.insert name snapshot }
      pure (session, .ok snapshot.toValue)
  | .prepareMove, true => session.passThrough slot hosted true (type.prepareMove settings)
  | .resume, true => session.passThrough slot hosted true type.resume
  | .finish, true => session.passThrough slot hosted false (type.finish settings)
  | .actions, _ => pure (session, .ok (.arr (type.actions.map Action.toValue)))
  | .setState state, _ => do
    let (model, result) ←
      type.managed.setState settings.rejectUnknownFields hosted.self.model state
    let answer : Answer := { result := Answer.ofExcept SnapshotError.problem done result }
    pure (session.keepActor slot { hosted with self := { hosted.self with model } }, answer)
  | .setReading value, _ =>
    pure (session.poke slot hosted fun sensor => { sensor with reading := value })
  | .setLast value, _ =>
    pure (session.poke slot hosted fun sensor => { sensor with last := value })
  | .undecodable, _ => pure (session, .problem .decode)
  | _, _ => pure (session, .problem .badInput)

/-- Answers a command to the actor in a slot. -/
def actorStep (session : Session) (slot : String) (command : ActorCommand) :
    Logged (Session × Answer) := do
  match session.actors.get? slot with
  | none => pure (withSlot slot session (.problem .badInput))
  | some hosted =>
    let (session, answer) ← session.hostedStep slot hosted command
    pure (withSlot slot session answer)

/-! ## Commands -/

/-- Answers a command. -/
def step (session : Session) : Command → Logged (Session × Answer)
  | .ports store actor command => session.portStep store actor command
  | .registry command => session.registryStep command
  | .table name command => session.tableStep name command
  | .create slot actor kind => session.create slot actor kind
  | .actor slot command => session.actorStep slot command
  | .unknown => pure (session, .problem .badInput)

end Session

end Dataflow
