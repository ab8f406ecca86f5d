import Dataflow.Declaration.Item

/-!
# Completing the derived traits of an item

An actor's type needs three traits.  Those that the item does not derive yet are derived by one
attribute more, put in front of the others.
-/

namespace Dataflow.Declaration

/-! ## Traits that are derived -/

/-- The traits that an attribute derives. -/
def ItemAttribute.traits : ItemAttribute → List Path
  | derive traits => traits
  | other _ => []

/-- How often an item derives a trait whose path ends in this name. -/
def Item.deriveCount (item : Item) (name : String) : Nat :=
  (item.attributes.flatMap ItemAttribute.traits).countP fun path => path.last? = some name

/-- Whether an item derives a trait whose path ends in this name. -/
def Item.derives (item : Item) (name : String) : Bool := 0 < item.deriveCount name

/-! ## Traits that are needed -/

/-- The parts of an option text, which are separated by commas. -/
def options (text : String) : List String :=
  (Text.split ',' text.toList).map fun part => String.ofList (Text.trim part)

/-- The traits that an actor's type needs; the first one is left out if the options say so. -/
def neededTraits (text : String) : List Path :=
  (if "no_default" ∈ options text then [] else [{ names := ["Default"] }]) ++
    [{ names := ["Debug"] }, { rooted := true, names := ["ember_reactive", "ManagedState"] }]

/-- The needed traits that an item does not derive yet. -/
def Item.missingTraits (item : Item) (text : String) : List Path :=
  (neededTraits text).filter fun path => !(path.last?.map item.derives).getD false

/-- The item with all needed traits derived. -/
def Item.complete (item : Item) (text : String) : Item :=
  match item.missingTraits text with
  | [] => item
  | missing => { item with attributes := .derive missing :: item.attributes }

end Dataflow.Declaration
