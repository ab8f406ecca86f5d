import Dataflow.Settings.Basic
import Dataflow.Toml.Document

/-!
# Settings in documents

Settings are written in four sections of a document.  Each setting is read on its own: it is the
value that the document gives, or else its default, and whatever else the document holds is
ignored.  A document in which one setting has a value of another type has no settings at all.
-/

namespace Dataflow

open Toml (Node Table)

/-! ## Sections -/

/-- What a document says in one section. -/
inductive Section where
  /-- Values by name. -/
  | named (members : Table)
  /-- Values by their place. -/
  | listed (items : List Node)

namespace Section

/-- A section that says nothing. -/
def empty : Section := named []

/-- The section that a node is: a table, or a list of the values in order.  A date takes the form
of a table without any of the names. -/
def ofNode? : Node → Option Section
  | .table _ members => some (named members)
  | .arr items => some (listed items)
  | .tables elements => some (listed (elements.map (.table .header)))
  | .moment => some empty
  | _ => none

/-- The section of this name. -/
def find? (name : String) (document : Table) : Option Section :=
  match document.find? name with
  | none => some empty
  | some node => ofNode? node

/-- What the section says of the setting with this place and name. -/
def value? (place : Nat) (name : String) : Section → Option Node
  | named members => members.find? name
  | listed items => items[place]?

/-- A setting: its default if the section says nothing of it, nothing if it has another type. -/
def setting? {α : Type} (decode : Node → Option α) (default : α) (place : Nat) (name : String)
    (s : Section) : Option α :=
  match s.value? place name with
  | none => some default
  | some node => decode node

end Section

/-! ## Types of settings -/

namespace Toml.Node

/-- A whole number that is not negative. -/
def asNat? : Node → Option Nat
  | .int n => if 0 ≤ n then some n.toNat else none
  | _ => none

/-- A boolean. -/
def asBool? : Node → Option Bool
  | .bool b => some b
  | _ => none

/-- A string. -/
def asString? : Node → Option String
  | .str s => some s
  | _ => none

end Toml.Node

/-! ## Settings -/

namespace Settings

/-- The settings of a document. -/
def ofTable? (document : Table) : Option Settings := do
  let defaults : Settings := {}
  let ports ← Section.find? "ports" document
  let snapshot ← Section.find? "snapshot" document
  let lifecycle ← Section.find? "lifecycle" document
  let logging ← Section.find? "logging" document
  let defaultCapacity ←
    ports.setting? Node.asNat? defaults.defaultCapacity 0 "default_capacity"
  let rejectUnknownFields ←
    snapshot.setting? Node.asBool? defaults.rejectUnknownFields 0 "reject_unknown_fields"
  let closeLeakedCapabilities ←
    lifecycle.setting? Node.asBool? defaults.closeLeakedCapabilities 0 "close_leaked_capabilities"
  let logLevel ← logging.setting? Node.asString? defaults.logLevel 0 "level"
  let logDirectory ←
    logging.setting? (fun node => node.asString?.map some) defaults.logDirectory 1 "directory"
  let logFile ← logging.setting? Node.asString? defaults.logFile 2 "file_name"
  pure
    { defaultCapacity, rejectUnknownFields, closeLeakedCapabilities, logLevel, logDirectory,
      logFile }

/-- The settings that text in TOML writes. -/
def parse? (text : String) : Option Settings := (Toml.parse? text).bind ofTable?

end Settings

end Dataflow
