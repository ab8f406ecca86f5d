import Dataflow.Actor.Type

/-!
# Actors that use capabilities or measurements
-/

namespace Dataflow.Actors

variable {W : Type}

/-! ## Fetcher -/

/-- Sends requests and buffers one response. -/
structure Fetcher where
  timeoutMs : Nat := 0
  requests : Nat := 0
  /-- A response that was read and is not emitted yet. -/
  response : Option Value := none
  /-- The open capability. -/
  handle : Option Handle := none

namespace Fetcher

/-- All but the handle moves with the actor. -/
def managed : ManagedType Fetcher where
  name := "Fetcher"
  default := {}
  fields :=
    .plain "timeout_ms" (.unsigned 64) Fetcher.timeoutMs
      (fun timeoutMs s => { s with timeoutMs }) <|
    .plain "requests" (.unsigned 64) Fetcher.requests (fun requests s => { s with requests }) <|
    .plain "response" (.option .value) Fetcher.response
      (fun response s => { s with response }) .nil

/-- The capability it uses. -/
def capability : String := "net.http"

/-- Opens the capability with the timeout. -/
def acquire : Hook W Fetcher := fun self => do
  match ← self.context.openCapability capability
      (.object [("timeout_ms", .nat self.model.timeoutMs)]) with
  | (context, .error e) => pure ({ self with context }, .error e.failure)
  | (context, .ok handle) =>
    pure ({ context, model := { self.model with handle := some handle } }, .ok ())

/-- Closes the capability, if it is open. -/
def release : Hook W Fetcher := fun self =>
  match self.model.handle with
  | none => pure (self, .ok ())
  | some handle => do
    let (context, _) ← self.context.close handle
    pure ({ context, model := { self.model with handle := none } }, .ok ())

/-- Whether there is room for a response and one to read. -/
def readable (self : Instance W Fetcher) : Bool :=
  self.model.response.isNone && self.model.handle.any self.context.canRead

/-- Whether a request can be sent. -/
def writable (self : Instance W Fetcher) : Bool := self.model.handle.any self.context.canWrite

/-- Emits the buffered response. -/
def emit (self : Fetcher) (_ : List Value) : Fetcher × Except Failure ActionResult :=
  ({ self with response := none }, .ok (.produced self.response.toList))

/-- Reads a response into the buffer. -/
def receive (self : Instance W Fetcher) (_ : List Value) :
    Logged (Instance W Fetcher × Except Failure ActionResult) :=
  match self.model.handle with
  | none => pure (self, .ok (.fired true))
  | some handle =>
    match self.context.read handle with
    | (context, .error e) => pure ({ self with context }, .error e.failure)
    | (context, .ok value) =>
      pure ({ context, model := { self.model with response := some value } }, .ok (.fired true))

/-- Sends a request. -/
def request (self : Instance W Fetcher) (values : List Value) :
    Logged (Instance W Fetcher × Except Failure ActionResult) :=
  match self.model.handle with
  | none => pure (self, .ok (.fired true))
  | some handle =>
    match self.context.write handle (values.headD .null) with
    | (context, .error e) => pure ({ self with context }, .error e.failure)
    | (context, .ok ()) =>
      pure ({ context, model := { self.model with requests := self.model.requests + 1 } },
        .ok (.fired true))

/-- Starts with a timeout. -/
def init (config : Value) : Option (Hook W Fetcher) :=
  match Decoder.record ["timeout_ms"] config with
  | some [timeout] =>
    (Decoder.unsigned 64 timeout).map fun timeoutMs self =>
      acquire { self with model := { self.model with timeoutMs } }
  | _ => none

/-- Sends a request for each value on `url` and emits each response on `data`.  A response is
buffered between the action that reads it and the one that emits it. -/
def type : ActorType W Fetcher where
  name := "Fetcher"
  managed := managed
  requires := [capability]
  actions :=
    [{ name := "emit", guard := some fun self => self.model.response.isSome,
       outputs := [.one "data"], body := onModel emit },
     { name := "receive", guard := some readable, body := receive },
     { name := "request", guard := some writable, inputs := [.one "url"], body := request }]
  init := init
  willMigrate := release
  didMigrate := acquire
  willEnd := release

end Fetcher

/-! ## Leaky -/

/-- Opens a timer and never closes it. -/
structure Leaky where
  timer : Option Handle := none

namespace Leaky

/-- Nothing moves with the actor. -/
def managed : ManagedType Leaky where
  name := "Leaky"
  default := {}
  fields := .nil

/-- The capability it uses. -/
def capability : String := "io.timer"

/-- Opens the timer. -/
def acquire : Hook W Leaky := fun self => do
  match ← self.context.openCapability capability .null with
  | (context, .error e) => pure ({ self with context }, .error e.failure)
  | (context, .ok handle) => pure ({ context, model := { timer := some handle } }, .ok ())

/-- Has no actions. -/
def type : ActorType W Leaky where
  name := "Leaky"
  managed := managed
  requires := [capability]
  init
    | .null => some acquire
    | _ => none

end Leaky

/-! ## Sensor -/

/-- Keeps a reading and the one before it. -/
structure Sensor where
  reading : Binary64 := .zero
  last : Option Binary64 := none

namespace Sensor

/-- Both readings move with the actor. -/
def managed : ManagedType Sensor where
  name := "Sensor"
  default := {}
  fields :=
    .plain "reading" .float Sensor.reading (fun reading s => { s with reading }) <|
    .plain "last" (.option .float) Sensor.last (fun last s => { s with last }) .nil

/-- Takes a reading; what is not a number counts as zero. -/
def sample (self : Sensor) (values : List Value) : Sensor × Except Failure ActionResult :=
  ({ reading := ((values.headD .null).asFloat?).getD .zero, last := some self.reading },
    .ok (.fired true))

/-- Takes readings from `in`. -/
def type : ActorType W Sensor where
  name := "Sensor"
  managed := managed
  actions := [{ name := "sample", inputs := [.one "in"], body := onModel sample }]
  init := ActorType.unconfigured

end Sensor

end Dataflow.Actors
