/-!
# Failures raised by user code

An action, a hook or a capability fails with a message and the causes behind it, outermost first.
-/

namespace Dataflow

/-- A failure with its causes. -/
structure Failure where
  message : String
  causes : List String := []
  deriving DecidableEq, Repr

namespace Failure

/-- The message and all causes in one line. -/
def chain (failure : Failure) : String :=
  ": ".intercalate (failure.message :: failure.causes)

end Failure

end Dataflow
