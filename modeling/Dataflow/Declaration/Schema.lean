import Dataflow.Declaration.Item
import Dataflow.Snapshot.Managed

/-!
# Managed fields of a declaration

A field is managed if it is marked so, once.  The schema of an item lists its managed fields in the
order of declaration, and how each takes part: as a portable value, or through the managed state of
its own type.  `Schema.managedFields` is what a schema stands for, given access to the fields.
-/

namespace Dataflow.Declaration

/-! ## Marks -/

/-- How a field takes part in managed state. -/
inductive MarkKind where
  /-- It is captured as a portable value. -/
  | plain
  /-- It is captured by the managed state of its own type. -/
  | nested
  deriving DecidableEq, Repr

/-- What is wrong with an item of a list that is a path of several names, given what follows the
first double colon after a name. -/
def pathError : List Lexeme → DeclarationFault
  | .word _ :: .separator :: rest => pathError rest
  | .word _ :: _ => .unknownMark
  | [] => .malformedMark (.path true)
  | _ => .malformedMark (.path false)

/-- What is wrong with an item of a list that starts with no name.  A minus sign may belong to a
number. -/
def itemError : List Lexeme → DeclarationFault
  | [] => .malformedMark .nothing
  | .number :: _ => .malformedMark .literal
  | .quoted :: _ => .malformedMark .literal
  | .symbol '-' :: .number :: _ => .malformedMark .literal
  | _ => .malformedMark .sign

/-- Checks that a list holds nothing but `nested`, separated by commas, of which one may be
last. -/
def checkNested : List Lexeme → Except DeclarationFault Unit
  | [] => .ok ()
  | .word _ :: .separator :: rest => .error (pathError rest)
  | [.word name] => if name = "nested" then .ok () else .error .unknownMark
  | .word name :: .symbol ',' :: rest =>
    if name = "nested" then checkNested rest else .error .unknownMark
  | .word name :: _ :: _ =>
    if name = "nested" then .error (.malformedMark .comma) else .error .unknownMark
  | .separator :: .word name :: rest => .error (pathError (.word name :: rest))
  | .separator :: rest => .error (itemError rest)
  | content => .error (itemError content)

/-- How a mark says that its field takes part. -/
def AttributeForm.markKind : AttributeForm → Except DeclarationFault MarkKind
  | .bare => .ok .plain
  | .assigned => .error .assignedMark
  | .list content =>
    (checkNested content).map fun () => if content.isEmpty then .plain else .nested

/-- Whether an attribute is a mark. -/
def Attribute.isMark (mark : Attribute) : Bool := mark.path.isName "managed"

/-- How the marks of a field, in order, say that it takes part, after those that `found` comes
from.  That a mark is not the first one counts before its form. -/
def markKind? (found : Option MarkKind) :
    List Attribute → Except DeclarationFault (Option MarkKind)
  | [] => .ok found
  | mark :: rest =>
    match found with
    | some _ => .error .duplicateMark
    | none =>
      match mark.form.markKind with
      | .error e => .error e
      | .ok kind => markKind? (some kind) rest

/-- How a field takes part in managed state, if it does. -/
def Field.markKind? (field : Field) : Except DeclarationFault (Option MarkKind) :=
  Declaration.markKind? none (field.attributes.filter Attribute.isMark)

/-! ## Schemas -/

/-- The managed fields of an item. -/
structure Schema where
  /-- The name of the type in messages. -/
  type : String
  fields : List (String × MarkKind)
  deriving DecidableEq, Repr

/-- The managed fields among fields, in order.  Each gives its name to a local one while state is
restored; a name that no other can be made of makes the expansion panic. -/
def managedFields? : List Field → Except DeclarationError (List (String × MarkKind))
  | [] => .ok []
  | field :: rest =>
    match field.markKind? with
    | .error fault => .error (.refused fault)
    | .ok none => managedFields? rest
    | .ok (some kind) =>
      if isRaw field.name then
        .error (.panicked .ofTrait (unusableName ("__managed_" ++ field.name)))
      else (managedFields? rest).map ((field.name, kind) :: ·)

/-- The schema of an item. -/
def Item.schema (item : Item) : Except DeclarationError Schema :=
  match item.shape with
  | .record fields => (managedFields? fields).map fun fields => { type := item.name, fields }
  | .unit => .ok { type := item.name, fields := [] }
  | .tuple => .error (.refused .unnamedFields)
  | .choice => .error (.refused .notARecord)
  | .union => .error (.refused .notARecord)

/-! ## What a schema stands for -/

/-- Access to a field that takes part in a certain way. -/
inductive FieldAccess (σ : Type) : MarkKind → Type 1 where
  | plain {α : Type} (codec : Codec α) (get : σ → α) (set : α → σ → σ) : FieldAccess σ .plain
  | nested {τ : Type} (type : ManagedType τ) (get : σ → τ) (set : τ → σ → σ) :
    FieldAccess σ .nested

/-- One more managed field in front of others. -/
def FieldAccess.cons {σ : Type} {kind : MarkKind} (access : FieldAccess σ kind) (name : String)
    (rest : ManagedFields σ) : ManagedFields σ :=
  match access with
  | .plain codec get set => .plain name codec get set rest
  | .nested type get set => .nested name type.name type.default type.fields get set rest

namespace Schema

/-- The managed fields that a schema stands for, given access to each by its name. -/
def managedFields {σ : Type} (schema : Schema)
    (access : String → (kind : MarkKind) → FieldAccess σ kind) : ManagedFields σ :=
  schema.fields.foldr (fun field rest => (access field.1 field.2).cons field.1 rest) .nil

/-- The names of the managed fields, in order. -/
def names (schema : Schema) : List String := schema.fields.map Prod.fst

end Schema

end Dataflow.Declaration
