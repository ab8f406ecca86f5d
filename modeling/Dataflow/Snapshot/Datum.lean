import Dataflow.Value.Text

/-!
# Data to be captured

Typed data describes itself as a `Datum` before it becomes a portable value.  The model is wider
than values are: it has integers of any size, 32-bit numbers, byte strings, variants of choices,
and maps with keys of any form.  Two things keep a datum from becoming a value.  A floating-point
number that is not finite has no portable text, wherever it stands; that is looked for first
(`firstNonFinite?`).  Then `Datum.toValue` refuses integers that no value holds and map keys that
have no name.
-/

namespace Dataflow

/-- A datum. -/
inductive Datum where
  | bool (b : Bool)
  | integer (n : Int)
  | single (x : Binary32)
  | double (x : Binary64)
  | str (s : String)
  | char (c : Char)
  | bytes (octets : List Nat)
  /-- Nothing: an absent value, a unit or a record without fields. -/
  | nothing
  /-- A unit with a name of its own. -/
  | unitNamed (name : String)
  /-- A present value. -/
  | present (content : Datum)
  /-- A value in a wrapper that leaves no trace. -/
  | wrapped (content : Datum)
  /-- A choice that carries nothing. -/
  | choice (name : String)
  /-- A choice that carries one value. -/
  | choiceOf (name : String) (content : Datum)
  /-- A choice that carries several values. -/
  | choiceTuple (name : String) (items : List Datum)
  /-- A choice that carries fields. -/
  | choiceRecord (name : String) (fields : List (String × Datum))
  | seq (items : List Datum)
  | map (entries : List (Datum × Datum))
  | record (fields : List (String × Datum))

namespace Datum

instance : Inhabited Datum := ⟨nothing⟩

/-! ## Numbers that are not finite -/

/-- The text of a number, if it is not finite. -/
def nonFinite? {format : BinaryFormat} (x : Binary format) : Option String :=
  if x.isFinite then none
  else some (if x.isNaN then "NaN" else if x.negative then "-inf" else "inf")

mutual

/-- The first number that is not finite, a map key coming before its value. -/
def firstNonFinite? : Datum → Option String
  | single x => nonFinite? x
  | double x => nonFinite? x
  | present content => firstNonFinite? content
  | wrapped content => firstNonFinite? content
  | choiceOf _ content => firstNonFinite? content
  | choiceTuple _ items => firstNonFiniteItem? items
  | choiceRecord _ fields => firstNonFiniteField? fields
  | seq items => firstNonFiniteItem? items
  | map entries => firstNonFiniteIn? entries
  | record fields => firstNonFiniteField? fields
  | _ => none

/-- The first number among items that is not finite. -/
def firstNonFiniteItem? : List Datum → Option String
  | [] => none
  | item :: rest => (firstNonFinite? item).or (firstNonFiniteItem? rest)

/-- The first number among fields that is not finite. -/
def firstNonFiniteField? : List (String × Datum) → Option String
  | [] => none
  | (_, item) :: rest => (firstNonFinite? item).or (firstNonFiniteField? rest)

/-- The first number among map entries that is not finite. -/
def firstNonFiniteIn? : List (Datum × Datum) → Option String
  | [] => none
  | (key, item) :: rest =>
    ((firstNonFinite? key).or (firstNonFinite? item)).or (firstNonFiniteIn? rest)

end

/-! ## Conversion -/

/-- Why a datum has no portable form. -/
inductive Refusal where
  /-- A floating-point number is not finite. -/
  | nonFinite (text : String)
  /-- No value holds an integer of this size. -/
  | integerRange
  /-- A map key is nothing that has a name. -/
  | keyForm
  deriving DecidableEq, Repr

/-- The text of a refusal. -/
def Refusal.message : Refusal → String
  | nonFinite text => text ++ " has no portable representation"
  | integerRange => "number out of range"
  | keyForm => "key must be a string"

/-- The name that a map key stands for. -/
def keyName : Datum → Except Refusal String
  | str s => .ok s
  | char c => .ok (String.ofList [c])
  | choice name => .ok name
  | bool b => .ok (if b then "true" else "false")
  | integer n => .ok (toString n)
  | single x => if x.isFinite then .ok (Binary.text32 x) else .error .keyForm
  | double x => if x.isFinite then .ok (Binary.text64 x) else .error .keyForm
  | wrapped content => keyName content
  | _ => .error .keyForm

/-- A finite number as a value; a number that is not finite would be null. -/
def number (x : Binary64) : Value := if x.isFinite then .float x else .null

mutual

/-- The portable form of a datum whose numbers are finite. -/
def toValue : Datum → Except Refusal Value
  | bool b => .ok (.bool b)
  | integer n =>
    if Value.leastInt ≤ n ∧ n ≤ Value.greatestInt then .ok (.int n) else .error .integerRange
  | single x => .ok (number x.convert)
  | double x => .ok (number x)
  | str s => .ok (.str s)
  | char c => .ok (.str (String.ofList [c]))
  | bytes octets => .ok (.arr (octets.map Value.nat))
  | nothing => .ok .null
  | unitNamed _ => .ok .null
  | present content => toValue content
  | wrapped content => toValue content
  | choice name => .ok (.str name)
  | choiceOf name content => (toValue content).map fun v => .object [(name, v)]
  | choiceTuple name items => (toItems items).map fun vs => .object [(name, .arr vs)]
  | choiceRecord name fields => (toMembers fields).map fun ms => .object [(name, .object ms)]
  | seq items => (toItems items).map .arr
  | map entries => (toEntries entries).map Value.object
  | record fields => (toMembers fields).map Value.object

/-- The portable forms of items. -/
def toItems : List Datum → Except Refusal (List Value)
  | [] => .ok []
  | item :: rest =>
    match toValue item with
    | .error e => .error e
    | .ok v => (toItems rest).map (v :: ·)

/-- The portable forms of fields, with their names. -/
def toMembers : List (String × Datum) → Except Refusal (List (String × Value))
  | [] => .ok []
  | (name, item) :: rest =>
    match toValue item with
    | .error e => .error e
    | .ok v => (toMembers rest).map ((name, v) :: ·)

/-- The portable forms of map entries, with the names of their keys. -/
def toEntries : List (Datum × Datum) → Except Refusal (List (String × Value))
  | [] => .ok []
  | (key, item) :: rest =>
    match keyName key with
    | .error e => .error e
    | .ok name =>
      match toValue item with
      | .error e => .error e
      | .ok v => (toEntries rest).map ((name, v) :: ·)

end

/-- The portable form of a datum: numbers that are not finite are looked for first. -/
def encode (datum : Datum) : Except Refusal Value :=
  match datum.firstNonFinite? with
  | some text => .error (.nonFinite text)
  | none => datum.toValue

/-! ## Values as data -/

mutual

/-- A value as a datum. -/
def ofValue : Value → Datum
  | .null => nothing
  | .bool b => bool b
  | .int n => integer n
  | .float x => double x
  | .str s => str s
  | .arr items => seq (ofItems items)
  | .obj members => map (ofMembers members)

/-- The items of a list as data. -/
def ofItems : List Value → List Datum
  | [] => []
  | item :: rest => ofValue item :: ofItems rest

/-- The members of an object as map entries. -/
def ofMembers : List (String × Value) → List (Datum × Datum)
  | [] => []
  | (name, item) :: rest => (str name, ofValue item) :: ofMembers rest

end

end Datum

end Dataflow
