import Dataflow.Value.Document
import Dataflow.Value.Decode

/-!
# Tokens

A token is an immutable entry of a port's queue.  Data tokens carry a value; exception tokens mark
a failure further up and are never handed to the body of an action.
-/

namespace Dataflow

/-- An entry of a queue. -/
inductive Token where
  /-- An ordinary token with its value. -/
  | data (value : Value)
  /-- The mark of a failure, with a description of it. -/
  | exception (reason : String)

/-- How the reason of an exception token is shown. -/
def exceptionText (reason : String) : String := s!"exception token: {reason}"

namespace Token

instance : Inhabited Token := ⟨data .null⟩

/-- Whether this is an exception token. -/
def isException : Token → Bool
  | data _ => false
  | exception _ => true

/-- The value of a data token. -/
def value? : Token → Option Value
  | data value => some value
  | exception _ => none

/-- The reason of an exception token. -/
def reason? : Token → Option String
  | data _ => none
  | exception reason => some reason

/-- Equality of tokens, their values compared as values. -/
def same : Token → Token → Bool
  | data a, data b => a.same b
  | exception a, exception b => a == b
  | _, _ => false

/-! ## The portable form -/

/-- A token as an object that names its kind. -/
def toValue : Token → Value
  | data value => .object [("kind", .str "data"), ("value", value)]
  | exception reason =>
    .object [("kind", .str "exception"), ("value", .object [("reason", .str reason)])]

/-- The kind of a token: whether it is an exception token. -/
def exceptional? (value : Value) : Option Bool :=
  match Decoder.choice value with
  | some ("data", payload) => if Decoder.bare payload then some false else none
  | some ("exception", payload) => if Decoder.bare payload then some true else none
  | _ => none

/-- The token of a kind with the given content. -/
def build (exceptional : Bool) (content : Value) : Option Token :=
  if exceptional then
    match Decoder.record ["reason"] content with
    | some [reason] => (Decoder.string reason).map exception
    | _ => none
  else some (data content)

/-- Reads the portable form: both the kind and the content must be there. -/
def ofValue? (value : Value) : Option Token :=
  match Decoder.record ["kind", "value"] value with
  | some [kind, content] => (exceptional? kind).bind (build · content)
  | _ => none

/-! ## Reading text

Text shows more than a value does: a field that occurs twice is refused, and fields that are not
used need not have a value.  Content that comes before its kind has to wait for it, and must have a
value as a whole. -/

/-- How deep the content of a token may be nested in text. -/
def contentDepth : Nat := Document.depthLimit - 1

/-- The kind of a token in text: whether it is an exception token. -/
def exceptionalInText? : Document → Option Bool
  | .str (some "data") => some false
  | .str (some "exception") => some true
  | .obj [(some "data", .null)] => some false
  | .obj [(some "exception", .null)] => some true
  | _ => none

/-- The reason of an exception token in text. -/
def reasonInText? : Document → Option String
  | .obj members =>
    match Document.onlyMember? "reason" members with
    | some (.str s) => s
    | _ => none
  | .arr [.str s] => s
  | _ => none

/-- The token of a kind with the given content in text. -/
def buildInText (exceptional : Bool) (content : Document) : Option Token :=
  if exceptional then (reasonInText? content).map exception
  else (content.value? contentDepth).map data

/-- Reads the portable form from text. -/
def ofDocument? : Document → Option Token
  | .obj members => do
    let kind ← Document.onlyMember? "kind" members
    let content ← Document.onlyMember? "value" members
    let exceptional ← exceptionalInText? kind
    let waits := (members.findIdx fun entry => entry.1 = some "value") <
      members.findIdx fun entry => entry.1 = some "kind"
    if waits && (content.value? contentDepth).isNone then none
    else buildInText exceptional content
  | .arr [kind, content] => (exceptionalInText? kind).bind (buildInText · content)
  | _ => none

end Token

end Dataflow
