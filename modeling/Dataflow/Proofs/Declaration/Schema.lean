import Dataflow.Declaration.Schema
import Dataflow.Proofs.Snapshot.Acceptance

/-!
# Which declarations are accepted

A declaration is read field by field, and each field mark by mark, up to the first field that ends
the expansion.  Here is said of a field, and of a mark, on its own what is wrong with it.  A
declaration is accepted if the expansion gets past all fields.

A field can end it in two ways.  If something is wrong with its marks, this is reported.  But a
managed field also gives its name to a local one, and a raw name cannot become a part of another: on
such a field the expansion panics, though it is marked as it should be.

* `Listing`, `AttributeForm.Proper`, `Field.Proper` — marks as they should be.
* `Field.fault?` — what is wrong with the marks of a field.
* `Field.Passes`, `Field.error?` — whether the expansion gets past a field, and how it ends if not.
* `managedFields?_eq` — the managed fields of a record, or the first way to end.
* `Schema.Implements` — managed fields that do what a schema says; `Schema.implements` shows it of
  those that the schema stands for.
* `Item.schema_exact` — all of this for an item.
-/

namespace Dataflow.Declaration

/-! ## Lists of marks -/

/-- A list that holds nothing but `nested`, any number of times. -/
inductive Listing : List Lexeme → Prop where
  | none : Listing []
  | last : Listing [.word "nested"]
  | more {rest : List Lexeme} (later : Listing rest) :
    Listing (.word "nested" :: .symbol ',' :: rest)

theorem checkNested_eq_ok_iff {content : List Lexeme} :
    checkNested content = .ok () ↔ Listing content := by
  constructor
  · intro accepted
    -- of all ways to read a list, three do not end in an error
    fun_induction checkNested content with
    | case1 => exact .none
    | case3 => exact .last
    | case5 rest ih => exact .more (ih accepted)
    | _ => cases accepted
  · intro listing
    induction listing with
    | none => rfl
    | last => rfl
    | more _ ih => exact ih

instance : DecidablePred Listing := fun content =>
  match checked : checkNested content with
  | .ok () => isTrue (checkNested_eq_ok_iff.1 checked)
  | .error _ => isFalse fun listing =>
    nomatch checked.symm.trans (checkNested_eq_ok_iff.2 listing)

/-- Whether a lexeme is the word `nested`. -/
def Lexeme.isNested : Lexeme → Bool
  | word name => name = "nested"
  | _ => false

/-- A proper list says `nested` if it says anything. -/
theorem Listing.any_isNested {content : List Lexeme} (listing : Listing content) :
    content.any Lexeme.isNested = !content.isEmpty := by
  cases listing with
  | none => rfl
  | last => rfl
  | more => rfl

/-! ## Marks -/

namespace AttributeForm

/-- The form is that of a mark: it has no list, or a list of nothing but `nested`. -/
def Proper : AttributeForm → Prop
  | bare => True
  | list content => Listing content
  | assigned => False

instance : DecidablePred Proper
  | bare => isTrue trivial
  | list content => inferInstanceAs (Decidable (Listing content))
  | assigned => isFalse id

/-- How a mark of this form says that its field takes part: through its own type if the mark says
`nested`. -/
def kind : AttributeForm → MarkKind
  | list content => if content.any Lexeme.isNested then .nested else .plain
  | _ => .plain

/-- What is wrong with a mark of this form. -/
def fault? : AttributeForm → Option DeclarationFault
  | bare => none
  | list content =>
    match checkNested content with
    | .error e => some e
    | .ok () => none
  | assigned => some .assignedMark

theorem fault?_eq_none_iff {form : AttributeForm} : form.fault? = none ↔ form.Proper := by
  cases form with
  | bare => exact iff_of_true rfl trivial
  | list content =>
      rw [fault?, Proper, ← checkNested_eq_ok_iff]
      cases checkNested content with
      | error e => exact iff_of_false nofun nofun
      | ok _ => exact iff_of_true rfl rfl
  | assigned => exact iff_of_false nofun id

theorem markKind_eq (form : AttributeForm) :
    form.markKind = match form.fault? with
      | some e => .error e
      | none => .ok form.kind := by
  cases form with
  | bare => rfl
  | list content =>
      rw [markKind, fault?]
      cases checked : checkNested content with
      | error e => rfl
      | ok _ =>
          -- whether `nested` is said is read off from whether anything is
          have said := (checkNested_eq_ok_iff.1 checked).any_isNested
          cases content with
          | nil => rfl
          | cons head rest =>
              rw [kind, said]
              rfl
  | assigned => rfl

end AttributeForm

/-! ## Fields -/

namespace Field

/-- The marks of a field, in order. -/
def marks (field : Field) : List Attribute := field.attributes.filter Attribute.isMark

/-- The field is marked at most once, and as it should be. -/
def Proper (field : Field) : Prop :=
  field.marks.length ≤ 1 ∧ ∀ mark ∈ field.marks, mark.form.Proper

instance : DecidablePred Proper := fun field =>
  inferInstanceAs (Decidable (field.marks.length ≤ 1 ∧ ∀ mark ∈ field.marks, mark.form.Proper))

/-- How a field takes part in managed state, if it is marked: as its mark says. -/
def kind? (field : Field) : Option MarkKind := field.marks.head?.map fun mark => mark.form.kind

/-- What is wrong with the marks of a field: with the first one, then that there is a second one. -/
def fault? (field : Field) : Option DeclarationFault :=
  match field.marks with
  | [] => none
  | mark :: others => mark.form.fault?.or (if others ≠ [] then some .duplicateMark else none)

/-- The expansion gets past the field: it is marked as it should be, and not marked at all if its
name is raw. -/
def Passes (field : Field) : Prop :=
  field.Proper ∧ (field.marks ≠ [] → isRaw field.name = false)

instance : DecidablePred Passes := fun field =>
  inferInstanceAs (Decidable (field.Proper ∧ (field.marks ≠ [] → isRaw field.name = false)))

/-- How the expansion ends at the field, if it does.  What is wrong with the marks is reported; else
a raw name makes it panic if there is a mark. -/
def error? (field : Field) : Option DeclarationError :=
  match field.fault? with
  | some fault => some (.refused fault)
  | none =>
    if field.marks ≠ [] ∧ isRaw field.name = true then
      some (.panicked .ofTrait (unusableName ("__managed_" ++ field.name)))
    else none

/-- The entry of a field in the schema, if it is marked. -/
def entry? (field : Field) : Option (String × MarkKind) := field.kind?.map (field.name, ·)

theorem fault?_eq_none_iff {field : Field} : field.fault? = none ↔ field.Proper := by
  rw [fault?, Proper]
  cases field.marks with
  | nil => simp
  | cons mark others => cases others <;> simp [AttributeForm.fault?_eq_none_iff]

theorem error?_eq_none_iff {field : Field} : field.error? = none ↔ field.Passes := by
  rw [error?, Passes, ← fault?_eq_none_iff]
  cases field.fault? with
  | some fault => simp
  | none => simp

theorem error?_eq_refused_iff {field : Field} {fault : DeclarationFault} :
    field.error? = some (.refused fault) ↔ field.fault? = some fault := by
  rw [error?]
  cases field.fault? with
  | some other => simp
  | none => simp

theorem error?_eq_panicked_iff {field : Field} {expander : Expander} {text : String} :
    field.error? = some (.panicked expander text) ↔
      field.Proper ∧ field.marks ≠ [] ∧ isRaw field.name = true ∧
        expander = .ofTrait ∧ text = unusableName ("__managed_" ++ field.name) := by
  rw [error?, ← fault?_eq_none_iff]
  cases field.fault? with
  | some fault => simp
  | none =>
      simp only [Option.ite_none_right_eq_some, Option.some.injEq,
        DeclarationError.panicked.injEq, true_and, and_assoc, eq_comm (b := expander),
        eq_comm (b := text)]

end Field

/-! ## Records -/

/-- The first mark of a field says how it takes part, unless something is wrong with the mark or
there is another one. -/
theorem Field.markKind?_eq (field : Field) :
    field.markKind? = match field.fault? with
      | some fault => .error fault
      | none => .ok field.kind? := by
  have read : field.markKind? = Declaration.markKind? none field.marks := rfl
  rw [read, fault?, kind?]
  cases field.marks with
  | nil => rfl
  | cons mark others =>
      rw [Declaration.markKind?, AttributeForm.markKind_eq]
      dsimp only
      cases mark.form.fault? with
      | some fault => rfl
      | none => cases others <;> rfl

/-- A field in front of others: how the expansion ends at it comes first, then how at them. -/
theorem managedFields?_cons (field : Field) (rest : List Field) :
    managedFields? (field :: rest) = match field.error? with
      | some e => .error e
      | none => (managedFields? rest).map (field.entry?.toList ++ ·) := by
  rw [managedFields?, Field.markKind?_eq, Field.error?, Field.entry?, Field.kind?]
  cases field.fault? with
  | some fault => rfl
  | none =>
      cases field.marks with
      | nil =>
          -- a field without marks has no entry
          change managedFields? rest = (managedFields? rest).map id
          cases managedFields? rest <;> rfl
      | cons mark others =>
          cases isRaw field.name with
          | true => simp
          | false => simp

/-- The managed fields of a record are the entries of its fields, unless the expansion ends at a
field.  Then it ends as at the first such field. -/
theorem managedFields?_eq (fields : List Field) :
    managedFields? fields = match fields.findSome? Field.error? with
      | some e => .error e
      | none => .ok (fields.filterMap Field.entry?) := by
  induction fields with
  | nil => rfl
  | cons field rest ih =>
      rw [managedFields?_cons, List.findSome?_cons]
      cases field.error? with
      | some e => rfl
      | none =>
          rw [ih]
          cases rest.findSome? Field.error? with
          | some e => rfl
          | none =>
              rw [Except.map, List.filterMap_cons]
              cases field.entry? <;> rfl

/-! ## Access to one field -/

namespace FieldAccess

variable {σ : Type} {kind : MarkKind} {reject : Bool} {name : String} {members : Entries Value}
  {x : σ}

/-- The value of a field as it is captured. -/
def capture (access : FieldAccess σ kind) (name : String) (x : σ) : Except SnapshotError Value :=
  match access with
  | plain codec get _ => encodeField name (codec.datum (get x))
  | nested type get _ => type.state (get x)

/-- Something can be made for the field from a value: a plain field decodes it, a nested one has its
own type restore it. -/
def Reads (access : FieldAccess σ kind) (reject : Bool) (v : Value) : Prop :=
  match access with
  | plain codec _ _ => ∃ a, codec.decode v = some a
  | nested type _ _ => ∃ a, (type.fromState reject v).value = .ok a

/-- The field holds what is made from a value. -/
def Holds (access : FieldAccess σ kind) (reject : Bool) (v : Value) (x : σ) : Prop :=
  match access with
  | plain codec get _ => codec.decode v = some (get x)
  | nested type get _ => (type.fromState reject v).value = .ok (get x)

theorem names_cons (access : FieldAccess σ kind) (rest : ManagedFields σ) :
    (access.cons name rest).names = name :: rest.names := by
  cases access <;> rfl

theorem capture_cons_eq_ok_iff {access : FieldAccess σ kind} {rest : ManagedFields σ}
    {captured : List (String × Value)} :
    (access.cons name rest).capture x = .ok captured ↔ ∃ v others,
      access.capture name x = .ok v ∧ rest.capture x = .ok others ∧
        captured = (name, v) :: others := by
  cases access with
  | plain codec get set =>
      rw [cons, ManagedFields.capture, capture]
      cases encodeField name (codec.datum (get x)) <;> cases rest.capture x <;>
        simp [Except.map, eq_comm]
  | nested type get set =>
      rw [cons, ManagedFields.capture, capture, ManagedType.state, ManagedFields.state]
      cases type.fields.capture (get x) <;> cases rest.capture x <;> simp [Except.map, eq_comm]

theorem fits_cons {access : FieldAccess σ kind} {rest : ManagedFields σ} :
    (access.cons name rest).Fits reject members ↔
      (∃ v, members.find? name = some v ∧ access.Reads reject v) ∧ rest.Fits reject members := by
  cases access <;> rfl

theorem filled_cons {access : FieldAccess σ kind} {rest : ManagedFields σ} :
    (access.cons name rest).Filled reject members x ↔
      (∃ v, members.find? name = some v ∧ access.Holds reject v x) ∧
        rest.Filled reject members x := by
  cases access <;> rfl

end FieldAccess

/-! ## What a schema stands for -/

namespace Schema

section Fields

variable {σ : Type} {access : String → (kind : MarkKind) → FieldAccess σ kind}
  {reject : Bool} {members : Entries Value} {x : σ}

theorem names_managedFields (schema : Schema)
    (access : String → (kind : MarkKind) → FieldAccess σ kind) :
    (schema.managedFields access).names = schema.names := by
  obtain ⟨type, fields⟩ := schema
  induction fields with
  | nil => rfl
  | cons field rest ih => exact (FieldAccess.names_cons ..).trans (congrArg _ ih)

theorem mem_captured {schema : Schema} {captured : List (String × Value)}
    (h : (schema.managedFields access).capture x = .ok captured) :
    ∀ field ∈ schema.fields, ∃ v,
      (access field.1 field.2).capture field.1 x = .ok v ∧ (field.1, v) ∈ captured := by
  obtain ⟨type, fields⟩ := schema
  induction fields generalizing captured with
  | nil => nofun
  | cons head rest ih =>
      obtain ⟨v, others, first, later, rfl⟩ := FieldAccess.capture_cons_eq_ok_iff.1 h
      intro field member
      rcases List.mem_cons.1 member with rfl | member
      · exact ⟨v, first, List.mem_cons_self ..⟩
      · obtain ⟨w, captured, among⟩ := ih later field member
        exact ⟨w, captured, List.mem_cons_of_mem _ among⟩

theorem exists_captured {schema : Schema}
    (h : ∀ field ∈ schema.fields, ∃ v, (access field.1 field.2).capture field.1 x = .ok v) :
    ∃ captured, (schema.managedFields access).capture x = .ok captured := by
  obtain ⟨type, fields⟩ := schema
  induction fields with
  | nil => exact ⟨[], rfl⟩
  | cons head rest ih =>
      obtain ⟨⟨v, first⟩, later⟩ := List.forall_mem_cons.1 h
      obtain ⟨others, captured⟩ := ih later
      exact ⟨_, FieldAccess.capture_cons_eq_ok_iff.2 ⟨v, others, first, captured, rfl⟩⟩

theorem fits_iff {schema : Schema} :
    (schema.managedFields access).Fits reject members ↔ ∀ field ∈ schema.fields,
      ∃ v, members.find? field.1 = some v ∧ (access field.1 field.2).Reads reject v := by
  obtain ⟨type, fields⟩ := schema
  induction fields with
  | nil => exact iff_of_true trivial nofun
  | cons field rest ih =>
      rw [List.forall_mem_cons, ← ih]
      exact FieldAccess.fits_cons

theorem filled_iff {schema : Schema} :
    (schema.managedFields access).Filled reject members x ↔ ∀ field ∈ schema.fields,
      ∃ v, members.find? field.1 = some v ∧ (access field.1 field.2).Holds reject v x := by
  obtain ⟨type, fields⟩ := schema
  induction fields with
  | nil => exact iff_of_true trivial nofun
  | cons field rest ih =>
      rw [List.forall_mem_cons, ← ih]
      exact FieldAccess.filled_cons

end Fields

/-- Managed fields do what a schema says, given access to the fields.  A value is captured if all
fields of the schema are, as an object whose members are these fields.  A state that is an object is
accepted if it has something for each of these fields, and nothing else if that is rejected.  Then
each holds what is made from its member, and all that is not managed is as before. -/
structure Implements {σ : Type} (fields : ManagedFields σ) (schema : Schema)
    (access : String → (kind : MarkKind) → FieldAccess σ kind) : Prop where
  names : fields.names = schema.names
  captured (x : σ) : (∃ s, fields.state x = .ok s) ↔
    ∀ field ∈ schema.fields, ∃ v, (access field.1 field.2).capture field.1 x = .ok v
  members (x : σ) (s : Value) : fields.state x = .ok s →
    ∃ members : Entries Value, s = .obj members ∧
    (∀ name, name ∈ members.map Prod.fst ↔ name ∈ schema.names) ∧
    (schema.names.Nodup → ∀ field ∈ schema.fields, ∀ v,
      (access field.1 field.2).capture field.1 x = .ok v → members.find? field.1 = some v)
  accepted (reject : Bool) (y : σ) (state : Value) : fields.Lawful →
    ((∃ z, (fields.setState reject schema.type y state).value = (z, .ok ())) ↔
      ∃ members : Entries Value, state = .obj members ∧
      (∀ field ∈ schema.fields, ∃ v, members.find? field.1 = some v ∧
        (access field.1 field.2).Reads reject v) ∧
      (reject = true → ∀ entry ∈ members, entry.1 ∈ schema.names))
  assigned (reject : Bool) (y z : σ) (state : Value) : fields.Lawful →
    (fields.setState reject schema.type y state).value = (z, .ok ()) →
      ∃ members : Entries Value, state = .obj members ∧
      (∀ field ∈ schema.fields, ∃ v, members.find? field.1 = some v ∧
        (access field.1 field.2).Holds reject v z) ∧
      fields.Untouched y z

/-- The managed fields that a schema stands for do what it says. -/
theorem implements {σ : Type} (schema : Schema)
    (access : String → (kind : MarkKind) → FieldAccess σ kind) :
    Implements (schema.managedFields access) schema access where
  names := names_managedFields schema access
  captured x := by
    constructor
    · rintro ⟨s, captured⟩ field member
      obtain ⟨entries, taken, -⟩ := ManagedFields.state_eq_ok_iff.1 captured
      obtain ⟨v, first, -⟩ := mem_captured taken field member
      exact ⟨v, first⟩
    · intro all
      obtain ⟨entries, taken⟩ := exists_captured all
      exact ⟨_, ManagedFields.state_eq_ok_iff.2 ⟨entries, taken, rfl⟩⟩
  members x s captured := by
    obtain ⟨entries, taken, rfl⟩ := ManagedFields.state_eq_ok_iff.1 captured
    have same : entries.map Prod.fst = schema.names :=
      (ManagedFields.map_fst_capture taken).trans (names_managedFields schema access)
    refine ⟨_, rfl, fun name => ?_, fun distinct field member v first => ?_⟩
    · rw [Entries.mem_names_ofList, same]
    · rw [← same] at distinct
      obtain ⟨w, again, among⟩ := mem_captured taken field member
      cases first.symm.trans again
      rw [Entries.find?_ofList distinct]
      exact Entries.find?_of_mem distinct among
  accepted reject y state lawful := by
    let type : ManagedType σ := ⟨schema.type, y, schema.managedFields access⟩
    replace lawful : type.fields.Lawful := lawful
    obtain ⟨accepted, -⟩ := ManagedType.setState_exact lawful reject y state
    refine accepted.trans (exists_congr fun members => and_congr_right fun _ => ?_)
    rw [fits_iff, names_managedFields]
  assigned reject y z state lawful restored := by
    let type : ManagedType σ := ⟨schema.type, y, schema.managedFields access⟩
    replace lawful : type.fields.Lawful := lawful
    obtain ⟨-, holds, -⟩ := ManagedType.setState_exact lawful reject y state
    obtain ⟨members, object, filled, untouched⟩ := holds z restored
    exact ⟨members, object, filled_iff.1 filled, untouched⟩

end Schema

/-! ## Items -/

namespace Field

/-- The managed fields are the marked ones. -/
theorem map_fst_entries (fields : List Field) :
    (fields.filterMap entry?).map Prod.fst =
      (fields.filter fun field => !field.marks.isEmpty).map Field.name := by
  induction fields with
  | nil => rfl
  | cons field rest ih =>
      rw [List.filterMap_cons, List.filter_cons, entry?, kind?]
      cases field.marks with
      | nil => exact ih
      | cons mark others => exact congrArg (field.name :: ·) ih

end Field

namespace Item

variable {item : Item} {fields : List Field}

theorem schema_record (shape : item.shape = .record fields) :
    item.schema = match fields.findSome? Field.error? with
      | some e => .error e
      | none => .ok { type := item.name, fields := fields.filterMap Field.entry? } := by
  rw [schema, shape]
  dsimp only
  rw [managedFields?_eq]
  cases fields.findSome? Field.error? <;> rfl

theorem exists_schema_iff (shape : item.shape = .record fields) :
    (∃ schema, item.schema = .ok schema) ↔ ∀ field ∈ fields, field.Passes := by
  have allPass : fields.findSome? Field.error? = none ↔ ∀ field ∈ fields, field.Passes := by
    rw [List.findSome?_eq_none_iff]
    exact forall₂_congr fun _ _ => Field.error?_eq_none_iff
  rw [← allPass, schema_record shape]
  cases fields.findSome? Field.error? with
  | some e => exact iff_of_false nofun nofun
  | none => exact iff_of_true ⟨_, rfl⟩ rfl

theorem eq_of_schema_ok (shape : item.shape = .record fields) {schema : Schema}
    (accepted : item.schema = .ok schema) :
    schema = { type := item.name, fields := fields.filterMap Field.entry? } := by
  rw [schema_record shape] at accepted
  cases first : fields.findSome? Field.error? with
  | some e =>
      rw [first] at accepted
      cases accepted
  | none =>
      rw [first] at accepted
      cases accepted
      rfl

/-- The expansion of a record ends as at the first field that it does not get past. -/
theorem schema_error_iff (shape : item.shape = .record fields) {e : DeclarationError} :
    item.schema = .error e ↔ ∃ before field after, fields = before ++ field :: after ∧
      field.error? = some e ∧ ∀ earlier ∈ before, earlier.Passes := by
  have first : item.schema = .error e ↔ fields.findSome? Field.error? = some e := by
    rw [schema_record shape]
    cases fields.findSome? Field.error? with
    | some other => simp
    | none => simp
  simp only [first, List.findSome?_eq_some_iff, Field.error?_eq_none_iff]

/-- Everything about an item.  The expansion of a record gets through if and only if all of its
fields are marked as they should be and none that is marked has a raw name.  Otherwise it ends at
the first field of which this is not so: with a report of what is wrong with the marks, or with a
panic if they are as they should be.  What is accepted has the marked fields as managed fields, in
order, each of them nested if its mark says so, and these do what the schema says. -/
theorem schema_exact (item : Item) :
    (item.shape = .unit → item.schema = .ok { type := item.name, fields := [] }) ∧
    (item.shape = .tuple → item.schema = .error (.refused .unnamedFields)) ∧
    (item.shape = .choice ∨ item.shape = .union → item.schema = .error (.refused .notARecord)) ∧
    (∀ fields, item.shape = .record fields →
      ((∃ schema, item.schema = .ok schema) ↔ ∀ field ∈ fields, field.Passes) ∧
      (∀ fault, item.schema = .error (.refused fault) ↔
        ∃ before field after, fields = before ++ field :: after ∧
          field.fault? = some fault ∧ ∀ earlier ∈ before, earlier.Passes) ∧
      (∀ expander text, item.schema = .error (.panicked expander text) ↔
        ∃ before field after, fields = before ++ field :: after ∧
          (field.Proper ∧ field.marks ≠ [] ∧ isRaw field.name = true ∧
            expander = .ofTrait ∧ text = unusableName ("__managed_" ++ field.name)) ∧
          ∀ earlier ∈ before, earlier.Passes) ∧
      ∀ schema, item.schema = .ok schema → schema.type = item.name ∧
        schema.names = (fields.filter fun field => !field.marks.isEmpty).map Field.name ∧
        schema.fields = fields.filterMap Field.entry?) ∧
    ∀ schema, item.schema = .ok schema → ∀ {σ : Type}
      (access : String → (kind : MarkKind) → FieldAccess σ kind),
        Schema.Implements (schema.managedFields access) schema access := by
  refine ⟨fun shape => ?_, fun shape => ?_, fun shape => ?_, fun fields shape => ?_, ?_⟩
  · rw [schema, shape]
  · rw [schema, shape]
  · rw [schema]
    rcases shape with shape | shape <;> rw [shape]
  · refine ⟨exists_schema_iff shape, fun fault => ?_, fun expander text => ?_,
      fun schema accepted => ?_⟩
    · simp only [schema_error_iff shape, Field.error?_eq_refused_iff]
    · simp only [schema_error_iff shape, Field.error?_eq_panicked_iff]
    · obtain rfl := eq_of_schema_ok shape accepted
      exact ⟨rfl, Field.map_fst_entries fields, rfl⟩
  · intro schema _ σ access
    exact schema.implements access

/-- One field, marked as it should be, makes the expansion panic because its name is raw. -/
theorem raw_name_panics :
    let field : Field := { name := "r#type", attributes := [⟨⟨false, ["managed"]⟩, .bare⟩] }
    let item : Item := { name := "Raw", shape := .record [field] }
    field.Proper ∧
      item.schema = .error (.panicked .ofTrait (unusableName "__managed_r#type")) ∧
      ¬∃ schema, item.schema = .ok schema := by
  intro field item
  have panics : item.schema = .error (.panicked .ofTrait (unusableName "__managed_r#type")) :=
    (schema_error_iff rfl).2 ⟨[], field, [], rfl, by decide, nofun⟩
  refine ⟨by decide, panics, ?_⟩
  rintro ⟨schema, accepted⟩
  cases panics.symm.trans accepted

end Item

end Dataflow.Declaration

namespace Dataflow.Samples

open Declaration

/-- The declaration of a station.  Its label has another attribute as well. -/
def Station.declaration : Item where
  name := "Station"
  shape := .record
    [{ name := "serial" },
      { name := "label"
        attributes := [⟨⟨false, ["doc"]⟩, .assigned⟩, ⟨⟨false, ["managed"]⟩, .bare⟩] },
      { name := "gauge"
        attributes := [⟨⟨false, ["managed"]⟩, .list [.word "nested", .symbol ',']⟩] }]

/-- Access to the fields of a station. -/
def Station.access (_ : String) : (kind : MarkKind) → FieldAccess Station kind
  | .plain => .plain .string Station.label fun label s => { s with label }
  | .nested => .nested Gauge.managed Station.gauge fun gauge s => { s with gauge }

/-- The declaration makes the label and the gauge managed.  The label of another station is taken
as it is, the gauge is made by its own type, and the serial number stays. -/
theorem station_declared :
    let gauge := Value.obj [("level", .int 12)]
    let state := Value.obj [("gauge", gauge), ("label", .str "north")]
    ∃ schema, Station.declaration.schema = .ok schema ∧
      schema.fields = [("label", .plain), ("gauge", .nested)] ∧
      (schema.managedFields Station.access).names = ["label", "gauge"] ∧
      ∃ z, ((schema.managedFields Station.access).setState true schema.type
          ⟨8, "south", ⟨5, [5]⟩⟩ state).value = (z, .ok ()) ∧
        z.label = "north" ∧ (Gauge.managed.fromState true gauge).value = .ok z.gauge ∧
        z.serial = 8 := by
  intro gauge state
  obtain ⟨-, -, -, record, stands⟩ := Item.schema_exact Station.declaration
  obtain ⟨accepted, -, -, entries⟩ := record _ rfl
  obtain ⟨schema, same⟩ := accepted.2 (by decide)
  obtain ⟨-, names, fields⟩ := entries schema same
  have implements := stands schema same Station.access
  have managed : schema.fields = [("label", .plain), ("gauge", .nested)] := fields.trans (by decide)
  have named : schema.names = ["label", "gauge"] := names.trans (by decide)
  have lawful : (schema.managedFields Station.access).Lawful := by
    rw [Schema.managedFields, managed]
    exact Station.lawful
  obtain ⟨z, restored⟩ := (implements.accepted true ⟨8, "south", ⟨5, [5]⟩⟩ state lawful).2
    ⟨_, rfl, by simpa [managed] using ⟨⟨_, rfl, _, rfl⟩, ⟨_, rfl, _, rfl⟩⟩, by simp [named]⟩
  obtain ⟨members, object, holds, untouched⟩ := implements.assigned true _ z state lawful restored
  obtain rfl : [("gauge", gauge), ("label", .str "north")] = members := Value.obj.inj object
  rw [managed] at holds
  obtain ⟨v, found, label⟩ := holds ("label", .plain) (by simp)
  obtain rfl : Value.str "north" = v := Option.some.inj found
  obtain ⟨v, found, made⟩ := holds ("gauge", .nested) (by simp)
  obtain rfl : gauge = v := Option.some.inj found
  refine ⟨schema, same, managed, implements.names.trans named, z, restored,
    (Option.some.inj label).symm, made, untouched Station.serial ?_⟩
  rw [Schema.managedFields, managed]
  exact ⟨fun _ _ => rfl, fun _ _ => rfl, trivial⟩

end Dataflow.Samples
