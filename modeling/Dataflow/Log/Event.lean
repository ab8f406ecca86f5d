import Dataflow.Value.Basic

/-!
# Logged events

What the library reports while it works.  A computation that reports is a `Logged` value: its
result and the entries it adds to the log, in order.  Nothing it computes depends on the log.
-/

namespace Dataflow

/-! ## Events -/

/-- How important an event is, most important first. -/
inductive Level where
  | error
  | warn
  | info
  | debug
  | trace
  deriving DecidableEq, Repr

namespace Level

/-- The name of a level. -/
def name : Level → String
  | error => "ERROR"
  | warn => "WARN"
  | info => "INFO"
  | debug => "DEBUG"
  | trace => "TRACE"

/-- How many levels a filter that stops at this one lets through. -/
def rank : Level → Nat
  | error => 1
  | warn => 2
  | info => 3
  | debug => 4
  | trace => 5

end Level

/-- The part of the library that reports an event. -/
inductive Source where
  | ports
  | capabilities
  | settings
  | selection
  | lifecycle
  | idle
  | active
  | snapshots
  | testing
  deriving DecidableEq, Repr

/-- The target of the events of a part, which filters go by. -/
def Source.target : Source → String
  | ports => "ember_core::port_store"
  | capabilities => "ember_core::capability"
  | settings => "ember_core::config"
  | selection => "ember_reactive::action::selector"
  | lifecycle => "ember_reactive::actor::managed_actor"
  | idle => "ember_reactive::actor::managed_actor::idle"
  | active => "ember_reactive::actor::managed_actor::active"
  | snapshots => "ember_reactive::snapshot"
  | testing => "ember_test"

/-- An event. -/
structure Event where
  level : Level
  source : Source
  message : String
  /-- What the event is about, by name. -/
  fields : List (String × Value) := []

/-- An entry of the log. -/
inductive LogEntry where
  /-- An event is reported. -/
  | event (event : Event)
  /-- The settings are looked up.  The first such entry of a process is where they are loaded. -/
  | settingsUsed

/-- The event of an entry. -/
def LogEntry.event? : LogEntry → Option Event
  | event e => some e
  | settingsUsed => none

/-! ## Computations that report -/

/-- A result, and what was logged on the way. -/
structure Logged (α : Type) where
  value : α
  entries : List LogEntry := []

namespace Logged

variable {α β : Type}

/-- A result without any entry. -/
protected def pure (a : α) : Logged α := { value := a }

/-- One computation after another. -/
protected def bind (x : Logged α) (f : α → Logged β) : Logged β :=
  { value := (f x.value).value, entries := x.entries ++ (f x.value).entries }

instance : Monad Logged where
  pure := Logged.pure
  bind := Logged.bind

@[simp] theorem value_pure (a : α) : (pure a : Logged α).value = a := rfl

@[simp] theorem value_bind (x : Logged α) (f : α → Logged β) :
    (x >>= f).value = (f x.value).value := rfl

@[simp] theorem value_map (f : α → β) (x : Logged α) : (f <$> x).value = f x.value := rfl

@[simp] theorem entries_pure (a : α) : (pure a : Logged α).entries = [] := rfl

@[simp] theorem entries_bind (x : Logged α) (f : α → Logged β) :
    (x >>= f).entries = x.entries ++ (f x.value).entries := rfl

/-- Reports an event. -/
def report (level : Level) (source : Source) (message : String)
    (fields : List (String × Value) := []) : Logged Unit :=
  { value := (), entries := [.event { level, source, message, fields }] }

/-- Looks up the settings. -/
def useSettings : Logged Unit := { value := (), entries := [.settingsUsed] }

@[simp] theorem value_report (level : Level) (source : Source) (message : String)
    (fields : List (String × Value)) : (report level source message fields).value = () := rfl

@[simp] theorem value_useSettings : useSettings.value = () := rfl

end Logged

end Dataflow
