import Dataflow.Log.Event
import Dataflow.Text.Split

/-!
# Tests that break off

The event that tells of a test which has broken off, and where.
-/

namespace Dataflow

/-- What a computation breaks off with. -/
inductive Payload where
  | text (s : String)
  /-- Anything that is not text. -/
  | other

/-- The message of a payload, on one line. -/
def Payload.message : Payload → String
  | text s => String.ofList ((Text.trim s.toList).map fun c => if c = '\n' then ' ' else c)
  | other => "No error message"

/-- The event of breaking off at a place. -/
def Payload.event (payload : Payload) (location : String) : Event where
  level := .error
  source := .testing
  message := s!"Panic at {location}: {payload.message}"

/-- The filter of events in tests. -/
def testFilter : String := "info,ember_reactive=trace,ember_core=debug"

end Dataflow
