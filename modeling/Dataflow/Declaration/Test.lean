import Dataflow.Declaration.Item

/-!
# Declarations of tests

A function that is declared as a test becomes one that sets up what tests need and then runs a
function of its own, which has the body.
-/

namespace Dataflow.Declaration

/-- A function that is declared as a test. -/
structure TestFunction where
  name : String
  /-- Whether the function runs asynchronously. -/
  isAsync : Bool := false
  parameters : List String := []

/-- The name of the function that has the body of a test. -/
def TestFunction.bodyName (function : TestFunction) : Except DeclarationError String :=
  let name := "__" ++ function.name ++ "_body"
  if function.isAsync then .error (.refused .asynchronousTest)
  else if !function.parameters.isEmpty then .error (.refused .testParameters)
  else if isRaw function.name then .error (.panicked .ofAttribute (unusableName name))
  else .ok name

end Dataflow.Declaration
