import Dataflow.Actors.Arithmetic
import Dataflow.Snapshot.Managed
import Dataflow.Value.Document

/-!
# Sample types with managed state

Types that between them use every kind of managed field: scalars, containers, choices, maps with
keys that are not strings, nested types and a generic one.
-/

namespace Dataflow.Samples

/-! ## Kitchen -/

/-- A choice, one case of which carries a number. -/
inductive Mode where
  | slow
  | fast
  | level (n : Nat)
  deriving DecidableEq, Repr

/-- Modes by name. -/
def Mode.codec : Codec Mode where
  datum
    | slow => .choice "slow"
    | fast => .choice "fast"
    | level n => .choiceOf "level" (.integer n)
  decode value :=
    match Decoder.choice value with
    | some ("slow", payload) => if Decoder.bare payload then some slow else none
    | some ("fast", payload) => if Decoder.bare payload then some fast else none
    | some ("level", some n) => (Decoder.unsigned 8 n).map level
    | _ => none

/-- A field of every plain kind. -/
structure Kitchen where
  flag : Bool := false
  small : Int := 0
  byte : Nat := 0
  wide : Int := 0
  big : Nat := 0
  ratio : Binary64 := .zero
  name : String := ""
  letter : Char := '\x00'
  maybe : Option Int := none
  list : List Int := []
  table : KeyMap Int := ∅
  pair : Int × String := (0, "")
  mode : Mode := .slow
  unit : Unit := ()
  raw : Value := .null
  /-- Not managed. -/
  scratch : Nat := 0

/-- The managed fields of a kitchen. -/
def Kitchen.managed : ManagedType Kitchen where
  name := "Kitchen"
  default := {}
  fields :=
    .plain "flag" .bool Kitchen.flag (fun flag s => { s with flag }) <|
    .plain "small" (.signed 8) Kitchen.small (fun small s => { s with small }) <|
    .plain "byte" (.unsigned 8) Kitchen.byte (fun byte s => { s with byte }) <|
    .plain "wide" (.signed 64) Kitchen.wide (fun wide s => { s with wide }) <|
    .plain "big" (.unsigned 64) Kitchen.big (fun big s => { s with big }) <|
    .plain "ratio" .float Kitchen.ratio (fun ratio s => { s with ratio }) <|
    .plain "name" .string Kitchen.name (fun name s => { s with name }) <|
    .plain "letter" .char Kitchen.letter (fun letter s => { s with letter }) <|
    .plain "maybe" (.option (.signed 64)) Kitchen.maybe (fun maybe s => { s with maybe }) <|
    .plain "list" (.list (.signed 64)) Kitchen.list (fun list s => { s with list }) <|
    .plain "table" (.keyMap (.signed 64)) Kitchen.table (fun table s => { s with table }) <|
    .plain "pair" (.pair (.signed 64) .string) Kitchen.pair (fun pair s => { s with pair }) <|
    .plain "mode" Mode.codec Kitchen.mode (fun mode s => { s with mode }) <|
    .plain "unit" .unit Kitchen.unit (fun u s => { s with unit := u }) <|
    .plain "raw" .value Kitchen.raw (fun raw s => { s with raw }) .nil

/-! ## Boxed -/

/-- One value of any type. -/
structure Boxed (α : Type) where
  value : α

/-- The managed field of a box. -/
def Boxed.managed {α : Type} (codec : Codec α) (default : α) : ManagedType (Boxed α) where
  name := "Boxed"
  default := ⟨default⟩
  fields := .plain "value" codec Boxed.value (fun value _ => ⟨value⟩) .nil

/-- A box that may be empty. -/
def Boxed.ofText : ManagedType (Boxed (Option String)) := Boxed.managed (.option .string) none

/-- A box with a number. -/
def Boxed.ofNumber : ManagedType (Boxed Int) := Boxed.managed (.signed 64) 0

/-! ## Nested types -/

/-- One level of nesting. -/
structure Inner where
  tag : String := ""
  stats : Actors.Stats := {}

/-- The managed fields of the inner type. -/
def Inner.managed : ManagedType Inner where
  name := "Inner"
  default := {}
  fields :=
    .plain "tag" .string Inner.tag (fun tag s => { s with tag }) <|
    .nested "stats" Actors.Stats.managed.name Actors.Stats.managed.default
      Actors.Stats.managed.fields Inner.stats (fun stats s => { s with stats }) .nil

/-- Two levels of nesting. -/
structure Outer where
  z : Nat := 0
  inner : Inner := {}
  a : Option String := none
  boxed : Boxed Int := ⟨0⟩

/-- The managed fields of the outer type. -/
def Outer.managed : ManagedType Outer where
  name := "Outer"
  default := {}
  fields :=
    .plain "z" (.unsigned 8) Outer.z (fun z s => { s with z }) <|
    .nested "inner" Inner.managed.name Inner.managed.default Inner.managed.fields Outer.inner
      (fun inner s => { s with inner }) <|
    .plain "a" (.option .string) Outer.a (fun a s => { s with a }) <|
    .nested "boxed" Boxed.ofNumber.name Boxed.ofNumber.default Boxed.ofNumber.fields Outer.boxed
      (fun boxed s => { s with boxed }) .nil

/-! ## Lookup -/

/-- Reads an integer as JSON text spells it, within 64 bits. -/
def integerKey? (name : String) : Option Int :=
  match Document.numeral? name.toList with
  | some (numeral, []) => numeral.value?.bind (Decoder.signed 64)
  | _ => none

/-- Reads a boolean. -/
def flagKey? : String → Option Bool
  | "true" => some true
  | "false" => some false
  | _ => none

/-- Maps with keys that are not strings. -/
structure Lookup where
  byId : List (Int × String) := []
  byFlag : List (Bool × Nat) := []

/-- The managed fields of look-up maps. -/
def Lookup.managed : ManagedType Lookup where
  name := "Lookup"
  default := {}
  fields :=
    .plain "by_id"
      { datum := fun entries => .map (entries.map fun (id, s) => (.integer id, .str s))
        decode := Decoder.entries integerKey? Decoder.string }
      Lookup.byId (fun byId s => { s with byId }) <|
    .plain "by_flag"
      { datum := fun entries => .map (entries.map fun (flag, n) => (.bool flag, .integer n))
        decode := Decoder.entries flagKey? (Decoder.unsigned 8) }
      Lookup.byFlag (fun byFlag s => { s with byFlag }) .nil

/-! ## Empty -/

/-- Has nothing to manage. -/
structure Empty where

/-- No managed fields. -/
def Empty.managed : ManagedType Empty where
  name := "Empty"
  default := {}
  fields := .nil

end Dataflow.Samples
