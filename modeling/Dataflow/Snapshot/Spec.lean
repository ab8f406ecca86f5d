import Dataflow.Program.Decode
import Dataflow.Snapshot.Datum

/-!
# Data spelled out as values

Any datum can be written as an object whose only member names its form and holds its content.
-/

namespace Dataflow.Datum

/-- A floating-point number: a number, or the name of one that no value holds. -/
def floatOf : Value → Binary64
  | .str "NaN" => .nan
  | .str "inf" => .infinite false
  | .str "-inf" => .infinite true
  | .str "-0.0" => ⟨true, 0⟩
  | value => value.asFloat?.getD .zero

/-- An integer of any size by its decimal digits. -/
def wideOf (text : String) : Int :=
  match text.toList with
  | '-' :: digits => -(Text.digitsValue digits : Int)
  | digits => Text.digitsValue digits

/-- Reads a datum; the fuel bounds how deep it is nested. -/
def ofSpec? : Nat → Value → Option Datum
  | 0, _ => none
  | depth + 1, .obj [(form, content)] =>
    let items (list : Value) : Option (List Datum) := list.items.mapM (ofSpec? depth)
    let fields (list : Value) : Option (List (String × Datum)) :=
      list.items.mapM fun entry =>
        let args : Operands := ⟨entry.items⟩
        (ofSpec? depth (args.value 1)).map (args.text 0, ·)
    let args : Operands := ⟨content.items⟩
    match form with
    | "bool" => some (bool (content.same (.bool true)))
    | "i8" | "i16" | "i32" | "i64" => some (integer content.number)
    | "u8" | "u16" | "u32" | "u64" => some (integer content.count)
    | "i128" | "u128" => some (integer (wideOf content.text))
    | "f32" => some (single (floatOf content).convert)
    | "f64" => some (double (floatOf content))
    | "str" => some (str content.text)
    | "char" => content.text.toList.head?.map char
    | "bytes" => some (bytes (content.items.map Value.count))
    | "none" | "unit" => some nothing
    | "some" => (ofSpec? depth content).map present
    | "unit_struct" => some (unitNamed content.text)
    | "unit_variant" => some (choice content.text)
    | "newtype" => (ofSpec? depth content).map wrapped
    | "newtype_variant" => (ofSpec? depth (args.value 2)).map (choiceOf (args.text 1))
    | "seq" | "tuple" | "tuple_struct" => (items content).map seq
    | "tuple_variant" => (items (args.value 2)).map (choiceTuple (args.text 1))
    | "map" =>
      (content.items.mapM fun entry =>
        let args : Operands := ⟨entry.items⟩
        (ofSpec? depth (args.value 0)).bind fun key =>
          (ofSpec? depth (args.value 1)).map (key, ·)).map map
    | "struct" => (fields content).map record
    | "struct_variant" => (fields (args.value 2)).map (choiceRecord (args.text 1))
    | "json" => some (ofValue content)
    | _ => none
  | _, _ => none

/-- Reads a datum. -/
def read? (value : Value) : Option Datum := ofSpec? (Document.depthLimit + 1) value

end Dataflow.Datum
