import Dataflow.Actor.Type

/-!
# Actors that direct the flow of tokens

Filters, a gate, recovery from exception tokens, and two actors that show how priorities work.
-/

namespace Dataflow.Actors

variable {W : Type}

/-! ## EvenPass -/

/-- Has no fields. -/
structure EvenPass where

namespace EvenPass

/-- Nothing moves with the actor. -/
def managed : ManagedType EvenPass where
  name := "EvenPass"
  default := {}
  fields := .nil

/-- Whether the first value is an even integer. -/
def isEven (values : List Value) : Bool :=
  ((values.headD .null).asInt64?).any fun n => n % 2 = 0

/-- Passes even numbers from `in` to `out`; odd ones stay queued. -/
def type : ActorType W EvenPass where
  name := "EvenPass"
  managed := managed
  actions :=
    [{ name := "pass", inputGuard := some fun _ values => isEven values, inputs := [.one "in"],
       outputs := [.one "out"], body := onModel fun self values => (self, .ok (.produced values)) }]
  init := ActorType.unconfigured

end EvenPass

/-! ## Gate -/

/-- Is open or closed. -/
structure Gate where
  isOpen : Bool := false

namespace Gate

/-- Whether it is open moves with the actor. -/
def managed : ManagedType Gate where
  name := "Gate"
  default := {}
  fields := .plain "open" .bool Gate.isOpen (fun isOpen _ => { isOpen }) .nil

/-- Hands on its input while open, and declines otherwise. -/
def forward (self : Gate) (values : List Value) : Gate × Except Failure ActionResult :=
  (self, .ok (if self.isOpen then .produced values else .fired false))

/-- Forwards `in` to `out` while open. -/
def type : ActorType W Gate where
  name := "Gate"
  managed := managed
  actions :=
    [{ name := "forward", inputs := [.one "in"], outputs := [.one "out"], body := onModel forward }]
  init := ActorType.unconfigured

end Gate

/-! ## Resilient -/

/-- Keeps the reasons of the exception tokens it has met. -/
structure Resilient where
  recovered : List String := []

namespace Resilient

/-- The reasons move with the actor. -/
def managed : ManagedType Resilient where
  name := "Resilient"
  default := {}
  fields :=
    .plain "recovered" (.list .string) Resilient.recovered (fun recovered _ => { recovered }) .nil

/-- What is emitted for an exception token. -/
def recovery (reason : String) : Value := .object [("recovered", .str reason)]

/-- Passes `in` on to `out`, turning exception tokens into a note. -/
def type : ActorType W Resilient where
  name := "Resilient"
  managed := managed
  actions :=
    [{ name := "pass", inputs := [.one "in"], outputs := [.one "out"],
       body := onModel fun self values => (self, .ok (.produced values)) }]
  init := ActorType.unconfigured
  onException self _ reason :=
    pure ({ self with model := { recovered := self.model.recovered ++ [reason] } },
      .ok (.one (recovery reason)))

end Resilient

/-! ## Prioritized -/

/-- Keeps the names of its actions in the order in which they fired. -/
structure Prioritized where
  log : List String := []

namespace Prioritized

/-- The log moves with the actor. -/
def managed : ManagedType Prioritized where
  name := "Prioritized"
  default := {}
  fields := .plain "log" (.list .string) Prioritized.log (fun log _ => { log }) .nil

/-- Notes and emits the name of an action. -/
def label (name : String) (self : Prioritized) (_ : List Value) :
    Prioritized × Except Failure ActionResult :=
  ({ log := self.log ++ [name] }, .ok (.one (.str name)))

/-- An action that reads the port of its own name. -/
def action (name : String) : Action (Instance W Prioritized) where
  name := name
  inputs := [.one name]
  outputs := [.one "out"]
  body := onModel (label name)

/-- Three actions, `a` above `b` above `c`. -/
def type : ActorType W Prioritized where
  name := "Prioritized"
  managed := managed
  actions := [action "a", action "b", action "c"]
  init := ActorType.unconfigured

end Prioritized

/-! ## Rearming -/

/-- Is armed or not. -/
structure Rearming where
  armed : Bool := false

namespace Rearming

/-- Whether it is armed moves with the actor. -/
def managed : ManagedType Rearming where
  name := "Rearming"
  default := {}
  fields := .plain "armed" .bool Rearming.armed (fun armed _ => { armed }) .nil

/-- Disarms. -/
def prime (_ : Rearming) (_ : List Value) : Rearming × Except Failure ActionResult :=
  ({ armed := false }, .ok (.one (.str "prime")))

/-- Hands on its input and arms. -/
def consume (_ : Rearming) (values : List Value) : Rearming × Except Failure ActionResult :=
  ({ armed := true }, .ok (.one (values.headD .null)))

/-- Takes the input without arming. -/
def fallback (self : Rearming) (_ : List Value) : Rearming × Except Failure ActionResult :=
  (self, .ok (.one (.str "fallback")))

/-- Consuming arms `prime`, which stands above it; `fallback` would take the same input if a scan
did not start over after each firing. -/
def type : ActorType W Rearming where
  name := "Rearming"
  managed := managed
  actions :=
    [{ name := "prime", guard := some fun self => self.model.armed, outputs := [.one "out"],
       body := onModel prime },
     { name := "consume", guard := some fun self => !self.model.armed, inputs := [.one "in"],
       outputs := [.one "out"], body := onModel consume },
     { name := "fallback", inputs := [.one "in"], outputs := [.one "out"],
       body := onModel fallback }]
  init := ActorType.unconfigured

end Rearming

end Dataflow.Actors
