import Dataflow.Value.Basic

/-!
# Settings

The six settings of a process, with their defaults.
-/

namespace Dataflow

/-- The settings of a process. -/
structure Settings where
  /-- The capacity of ports that are added without one; zero stands for no bound. -/
  defaultCapacity : Nat := 5
  /-- Whether restoring refuses state with fields that are not managed. -/
  rejectUnknownFields : Bool := false
  /-- Whether capabilities left open before a move or at the end are closed. -/
  closeLeakedCapabilities : Bool := true
  /-- The filter of logged events. -/
  logLevel : String := "info"
  /-- The directory of the log file, if it is not the usual one. -/
  logDirectory : Option String := none
  /-- The name of the log file. -/
  logFile : String := "ember.log"
  deriving DecidableEq, Repr

namespace Settings

/-- The portable form, in sections. -/
def toValue (settings : Settings) : Value :=
  .object
    [("ports", .object [("default_capacity", .nat settings.defaultCapacity)]),
      ("snapshot", .object [("reject_unknown_fields", .bool settings.rejectUnknownFields)]),
      ("lifecycle",
        .object [("close_leaked_capabilities", .bool settings.closeLeakedCapabilities)]),
      ("logging",
        .object
          [("level", .str settings.logLevel),
            ("directory", (settings.logDirectory.map Value.str).getD .null),
            ("file_name", .str settings.logFile)])]

end Settings

end Dataflow
