import Dataflow.Action.Basic
import Dataflow.Text.Visible

/-!
# Actions as they are shown

The name, whether there is a guard, and the declared ports; the guard meant here is the one that
does not look at inputs.
-/

namespace Dataflow

/-- A declared port as it is shown. -/
def PortCount.describe (entry : PortCount) : String :=
  "PortCount \x7b port: " ++ Text.visible entry.port ++ ", count: " ++ toString entry.count ++
    " \x7d"

/-- Declared ports as they are shown. -/
def PortCount.describeAll (entries : List PortCount) : String :=
  "[" ++ ", ".intercalate (entries.map PortCount.describe) ++ "]"

/-- An action as it is shown. -/
def Action.describe {S : Type} (action : Action S) : String :=
  "Action \x7b name: " ++ Text.visible action.name ++
    ", guarded: " ++ (if action.guard.isSome then "true" else "false") ++
    ", inputs: " ++ PortCount.describeAll action.inputs ++
    ", outputs: " ++ PortCount.describeAll action.outputs ++ ", .. \x7d"

end Dataflow
