import Dataflow.Log.Filter

/-!
# The journal of a process

The events of a process in the order in which they are reported, and the lines that its log keeps
of them.  The settings of a process are loaded when they are looked up for the first time, so that
is where the events of loading them come in.
-/

namespace Dataflow

/-- The events of log entries, those of loading the settings at the first look-up. -/
def LogEntry.journal (loading : List Event) : List LogEntry → List Event
  | [] => []
  | .event e :: rest => e :: journal loading rest
  | .settingsUsed :: rest => loading ++ rest.filterMap LogEntry.event?

/-- The line that the log keeps of an event: level, target and message. -/
def Event.line (event : Event) : Value :=
  .strings [event.level.name, event.source.target, event.message]

/-- The lines of the events that a filter lets through. -/
def Filter.lines (filter : Filter) (events : List Event) : List Value :=
  (events.filter filter.allows).map Event.line

end Dataflow
