import Dataflow.Value.Basic

/-!
# Decoding values into types

The rules by which a value is read as something more specific.  A record is an object that has its
fields, further members being ignored, or a list of exactly its fields in order.  A choice is its
name, or an object whose only member has that name and holds what the choice carries.
-/

namespace Dataflow

/-- Reads a value as an `α`, if it is one. -/
abbrev Decoder (α : Type) := Value → Option α

namespace Decoder

variable {α β : Type}

/-! ## Scalars -/

/-- Only null. -/
def unit : Decoder Unit
  | .null => some ()
  | _ => none

/-- Only a boolean. -/
def bool : Decoder Bool
  | .bool b => some b
  | _ => none

/-- Only an integer in the range; a floating-point number is never one. -/
def int (least greatest : Int) : Decoder Int
  | .int n => if least ≤ n ∧ n ≤ greatest then some n else none
  | _ => none

/-- Only an integer of the given number of bits with a sign. -/
def signed (bits : Nat) : Decoder Int :=
  int (-(Nat.pow 2 (bits - 1) : Int)) ((Nat.pow 2 (bits - 1) : Int) - 1)

/-- Only an integer of the given number of bits without a sign. -/
def unsigned (bits : Nat) : Decoder Nat := fun value =>
  (int 0 ((Nat.pow 2 bits : Int) - 1) value).map Int.toNat

/-- Any number, integers being rounded. -/
def float : Decoder Binary64 := Value.asFloat?

/-- Only a string. -/
def string : Decoder String
  | .str s => some s
  | _ => none

/-- Only a string of one character. -/
def char : Decoder Char
  | .str s =>
    match s.toList with
    | [c] => some c
    | _ => none
  | _ => none

/-- Every value as it is. -/
def value : Decoder Value := some

/-! ## Containers -/

/-- Null is nothing, anything else is decoded. -/
def option (decode : Decoder α) : Decoder (Option α)
  | .null => some none
  | v => (decode v).map some

/-- A list of values that all decode. -/
def list (decode : Decoder α) : Decoder (List α)
  | .arr items => items.mapM decode
  | _ => none

/-- A list of exactly two values. -/
def pair (first : Decoder α) (second : Decoder β) : Decoder (α × β)
  | .arr [a, b] => (first a).bind fun a => (second b).map fun b => (a, b)
  | _ => none

/-- The members of an object, their names read by `key`. -/
def entries (key : String → Option α) (decode : Decoder β) : Decoder (List (α × β))
  | .obj members => members.mapM fun (name, v) => (key name).bind fun k => (decode v).map (k, ·)
  | _ => none

/-- An object as a map from its names. -/
def keyMap (decode : Decoder α) : Decoder (KeyMap α) := fun value =>
  (entries some decode value).map KeyMap.ofList

/-! ## Records and choices -/

/-- The fields of a record, each `none` where an object lacks it. -/
def fields (names : List String) : Value → Option (List (Option Value))
  | .obj members => some (names.map fun name => Entries.find? name members)
  | .arr items => if items.length = names.length then some (items.map some) else none
  | _ => none

/-- A record with all of the named fields. -/
def record (names : List String) (value : Value) : Option (List Value) :=
  (fields names value).bind fun found => found.mapM id

/-- A choice by its name, with what it carries if the value says so. -/
def choice : Value → Option (String × Option Value)
  | .str name => some (name, none)
  | .obj [(name, payload)] => some (name, some payload)
  | _ => none

/-- Whether a choice carries nothing. -/
def bare (payload : Option Value) : Bool := payload.all Value.isNull

end Decoder

end Dataflow
