import Dataflow.Declaration.Attribute

/-!
# Declarations

Items that are to have managed state, as they are declared, and how their expansion can fail: with
a fault of the declaration that is reported, or by a panic.
-/

namespace Dataflow.Declaration

/-! ## Items -/

/-- A field with a name. -/
structure Field where
  name : String
  attributes : List Attribute := []

/-- What kind of type an item declares. -/
inductive Shape where
  /-- A record of fields with names. -/
  | record (fields : List Field)
  /-- A record without fields, not even an empty list of them. -/
  | unit
  /-- A record of fields without names. -/
  | tuple
  /-- A choice between cases. -/
  | choice
  /-- Fields that share their place. -/
  | union

/-- An attribute of an item. -/
inductive ItemAttribute where
  /-- The traits that are to be derived. -/
  | derive (traits : List Path)
  /-- Any other attribute, which does not matter here. -/
  | other (text : String)
  deriving DecidableEq, Repr

/-- A declared type. -/
structure Item where
  name : String
  shape : Shape
  attributes : List ItemAttribute := []

/-! ## Errors -/

/-- Why the list of an attribute cannot be read. -/
inductive ListProblem where
  /-- A number or text where a name is expected. -/
  | literal
  /-- A sign where a name is expected. -/
  | sign
  /-- Nothing where a name is expected. -/
  | nothing
  /-- A path does not go on with a name; `ended` if it does not go on at all. -/
  | path (ended : Bool)
  /-- Two items without a comma between them. -/
  | comma
  deriving DecidableEq, Repr

/-- The text of a problem. -/
def ListProblem.message : ListProblem → String
  | literal => "unexpected literal in nested attribute, expected ident"
  | sign => "unexpected token in nested attribute, expected ident"
  | nothing => "unexpected end of input, expected nested attribute"
  | path false => "expected ident"
  | path true => "unexpected end of input, expected ident"
  | comma => "expected `,`"

/-- What is wrong with a declaration. -/
inductive DeclarationFault where
  /-- A field is marked as managed twice. -/
  | duplicateMark
  /-- A mark lists something else than `nested`. -/
  | unknownMark
  /-- A mark has a value. -/
  | assignedMark
  /-- The list of a mark cannot be read. -/
  | malformedMark (problem : ListProblem)
  /-- The fields have no names. -/
  | unnamedFields
  /-- The item is not a record. -/
  | notARecord
  /-- A test does not run to its end at once. -/
  | asynchronousTest
  /-- A test has parameters. -/
  | testParameters
  deriving DecidableEq, Repr

/-- The text of a fault. -/
def DeclarationFault.message : DeclarationFault → String
  | duplicateMark => "duplicate #[managed] attribute"
  | unknownMark => "expected `nested`"
  | assignedMark => "expected #[managed] or #[managed(nested)]"
  | malformedMark problem => problem.message
  | unnamedFields => "ManagedState requires named fields"
  | notARecord => "ManagedState can only be derived for structs"
  | asynchronousTest => "ember_test functions must be synchronous"
  | testParameters => "ember_test functions take no arguments"

/-- What expands a declaration. -/
inductive Expander where
  /-- The derivation of a trait. -/
  | ofTrait
  /-- An attribute in front of the declaration. -/
  | ofAttribute
  deriving DecidableEq, Repr

/-- All that is reported of an expander that panics. -/
def Expander.panicMessage : Expander → String
  | ofTrait => "proc-macro derive panicked"
  | ofAttribute => "custom attribute panicked"

/-- Why an expansion yields nothing. -/
inductive DeclarationError where
  /-- The expander refuses the declaration and reports what is wrong with it. -/
  | refused (fault : DeclarationFault)
  /-- The expander panics with a text of its own. -/
  | panicked (expander : Expander) (text : String)
  deriving DecidableEq, Repr

/-- The text of an error. -/
def DeclarationError.message : DeclarationError → String
  | refused fault => fault.message
  | panicked expander _ => expander.panicMessage

/-- The text with which a name is refused that is to be made but is none. -/
def unusableName (made : String) : String := s!"`\"{made}\"` is not a valid identifier"

/-- Whether a name has the mark of names that would otherwise be keywords.  Such a name cannot
become a part of another. -/
def isRaw (name : String) : Bool := ['r', '#'].isPrefixOf name.toList

end Dataflow.Declaration
