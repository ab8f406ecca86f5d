import Dataflow.Snapshot.Datum

/-!
# Why state cannot be captured or restored
-/

namespace Dataflow

/-- A failure to capture or restore managed state. -/
inductive SnapshotError where
  /-- A managed field holds something without a portable form. -/
  | notRepresentable (field : String) (why : Datum.Refusal)
  /-- The state lacks a managed field. -/
  | missingField (type field : String)
  /-- The state has a field that the type does not manage. -/
  | unexpectedField (type field : String)
  /-- The state is not an object. -/
  | notAnObject (type : String)
  /-- What the state holds for a field does not fit the field's type. -/
  | decode (field : String)
  /-- The snapshot was taken of another type of actor. -/
  | typeMismatch (expected found : String)
  deriving DecidableEq, Repr

namespace SnapshotError

/-- The text of the error. -/
def message : SnapshotError → String
  | notRepresentable field _ =>
    s!"managed field '{field}' cannot be represented as a portable value"
  | missingField type field => s!"{type}: managed field '{field}' is missing"
  | unexpectedField type field => s!"{type}: unexpected field '{field}'"
  | notAnObject type => s!"{type}: managed state is not an object"
  | decode field => s!"managed field '{field}' could not be decoded"
  | typeMismatch expected found => s!"snapshot of actor type '{found}' cannot restore '{expected}'"

/-- The causes that are part of the answer. -/
def source? : SnapshotError → Option String
  | notRepresentable _ why => some why.message
  | _ => none

end SnapshotError

end Dataflow
