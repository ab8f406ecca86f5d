import Dataflow.Proofs.Number.Binary
import Dataflow.Snapshot.Managed

/-!
# Which data can be captured

Data is looked through twice before it is captured: once for floating-point numbers that are not
finite, which would become null, and once while it is converted.  Here is what the two passes find
together, told by what the datum holds anywhere, in the order in which it is written.

* `Datum.parts` — everything in a datum, and whether it is used as a map key.
* `Datum.floats`, `Datum.integers`, `Datum.keys` — the parts that may keep a datum from being
  captured.
* `Datum.image` — the value that a datum stands for, in which every number is a number.
* `Datum.firstNonFinite?_eq` — the first pass stops at the first number that is not finite.
* `Datum.toValue_eq` — the second pass gives the image, or stops at the first part in its way.
* `Datum.encodeField_captures` — both passes together.
-/

namespace Dataflow

namespace Datum

/-! ## The parts of a datum -/

mutual

/-- A datum and everything in it, in the order in which it is written, each with whether it is
used as a map key.  What is in a wrapper is used as the wrapper is. -/
def parts (asKey : Bool) : Datum → List (Bool × Datum)
  | present content => (asKey, present content) :: parts false content
  | wrapped content => (asKey, wrapped content) :: parts asKey content
  | choiceOf name content => (asKey, choiceOf name content) :: parts false content
  | choiceTuple name items => (asKey, choiceTuple name items) :: itemParts items
  | choiceRecord name fields => (asKey, choiceRecord name fields) :: fieldParts fields
  | seq items => (asKey, seq items) :: itemParts items
  | map entries => (asKey, map entries) :: entryParts entries
  | record fields => (asKey, record fields) :: fieldParts fields
  | datum => [(asKey, datum)]

/-- The parts of items. -/
def itemParts : List Datum → List (Bool × Datum)
  | [] => []
  | item :: rest => parts false item ++ itemParts rest

/-- The parts of fields. -/
def fieldParts : List (String × Datum) → List (Bool × Datum)
  | [] => []
  | (_, item) :: rest => parts false item ++ fieldParts rest

/-- The parts of map entries, a key before its value. -/
def entryParts : List (Datum × Datum) → List (Bool × Datum)
  | [] => []
  | (key, item) :: rest => parts true key ++ (parts false item ++ entryParts rest)

end

/-- A floating-point number of either size. -/
abbrev Float := (format : BinaryFormat) × Binary format

/-- A part that is a floating-point number. -/
def float? : Bool × Datum → Option Float
  | (_, single x) => some ⟨.single, x⟩
  | (_, double x) => some ⟨.double, x⟩
  | _ => none

/-- The floating-point numbers anywhere in a datum, map keys included. -/
def floats (datum : Datum) : List Float := (parts false datum).filterMap float?

/-- The integers anywhere in a datum that are not used as map keys. -/
def integers (datum : Datum) : List Int :=
  (parts false datum).filterMap fun
    | (false, integer n) => some n
    | _ => none

/-- The map keys anywhere in a datum. -/
def keys (datum : Datum) : List Datum :=
  (parts false datum).filterMap fun
    | (true, key) => some key
    | _ => none

/-- Whether a map key has a name: whether it is, through any wrappers, a string, a character, a
choice that carries nothing, a truth value, an integer or a finite number. -/
def named : Datum → Bool
  | str _ | char _ | choice _ | bool _ | integer _ => true
  | single x => x.isFinite
  | double x => x.isFinite
  | wrapped content => named content
  | _ => false

/-! ## What a datum stands for -/

/-- The name of a map key that has one. -/
def keyText (key : Datum) : String :=
  match keyName key with
  | .ok name => name
  | .error _ => ""

mutual

/-- The value that a datum stands for. -/
def image : Datum → Value
  | bool b => .bool b
  | integer n => .int n
  | single x => .float x.convert
  | double x => .float x
  | str s => .str s
  | char c => .str (String.ofList [c])
  | bytes octets => .arr (octets.map Value.nat)
  | nothing => .null
  | unitNamed _ => .null
  | present content => image content
  | wrapped content => image content
  | choice name => .str name
  | choiceOf name content => .object [(name, image content)]
  | choiceTuple name items => .object [(name, .arr (itemImages items))]
  | choiceRecord name fields => .object [(name, .object (fieldImages fields))]
  | seq items => .arr (itemImages items)
  | map entries => .object (entryImages entries)
  | record fields => .object (fieldImages fields)

/-- The values that items stand for. -/
def itemImages : List Datum → List Value
  | [] => []
  | item :: rest => image item :: itemImages rest

/-- The members that fields stand for. -/
def fieldImages : List (String × Datum) → List (String × Value)
  | [] => []
  | (name, item) :: rest => (name, image item) :: fieldImages rest

/-- The members that map entries stand for. -/
def entryImages : List (Datum × Datum) → List (String × Value)
  | [] => []
  | (key, item) :: rest => (keyText key, image item) :: entryImages rest

end

/-! ## The search for numbers that are not finite -/

theorem isFinite_of_nonFinite? {format : BinaryFormat} {x : Binary format}
    (h : nonFinite? x = none) : x.isFinite = true := by
  rw [nonFinite?] at h
  split at h
  · assumption
  · cases h

/-- The text of a part that is a number but not finite. -/
def refused? (part : Bool × Datum) : Option String :=
  (float? part).bind fun x => nonFinite? x.2

mutual

/-- The search goes through the parts in order, and does not care which are map keys. -/
theorem firstNonFinite?_eq : ∀ (asKey : Bool) (datum : Datum),
    datum.firstNonFinite? = (parts asKey datum).findSome? refused?
  | _, bool _ | _, integer _ | _, str _ | _, char _ | _, bytes _ | _, nothing
  | _, unitNamed _ | _, choice _ => rfl
  | asKey, single x | asKey, double x => by
      simp [firstNonFinite?, parts, refused?, float?]
  | asKey, wrapped content => by
      rw [firstNonFinite?, parts, List.findSome?_cons_of_isNone rfl, firstNonFinite?_eq asKey]
  | asKey, present content | asKey, choiceOf _ content => by
      rw [firstNonFinite?, parts, List.findSome?_cons_of_isNone rfl, firstNonFinite?_eq false]
  | asKey, choiceTuple _ items | asKey, seq items => by
      rw [firstNonFinite?, parts, List.findSome?_cons_of_isNone rfl, firstNonFiniteItem?_eq]
  | asKey, choiceRecord _ fields | asKey, record fields => by
      rw [firstNonFinite?, parts, List.findSome?_cons_of_isNone rfl, firstNonFiniteField?_eq]
  | asKey, map entries => by
      rw [firstNonFinite?, parts, List.findSome?_cons_of_isNone rfl, firstNonFiniteIn?_eq]

theorem firstNonFiniteItem?_eq : ∀ items : List Datum,
    firstNonFiniteItem? items = (itemParts items).findSome? refused?
  | [] => rfl
  | item :: rest => by
      rw [firstNonFiniteItem?, itemParts, List.findSome?_append, firstNonFinite?_eq false,
        firstNonFiniteItem?_eq rest]

theorem firstNonFiniteField?_eq : ∀ fields : List (String × Datum),
    firstNonFiniteField? fields = (fieldParts fields).findSome? refused?
  | [] => rfl
  | (_, item) :: rest => by
      rw [firstNonFiniteField?, fieldParts, List.findSome?_append, firstNonFinite?_eq false,
        firstNonFiniteField?_eq rest]

theorem firstNonFiniteIn?_eq : ∀ entries : List (Datum × Datum),
    firstNonFiniteIn? entries = (entryParts entries).findSome? refused?
  | [] => rfl
  | (key, item) :: rest => by
      rw [firstNonFiniteIn?, entryParts, List.findSome?_append, List.findSome?_append,
        firstNonFinite?_eq true key, firstNonFinite?_eq false item, firstNonFiniteIn?_eq rest,
        Option.or_assoc]

end

/-! ## Conversion -/

/-- What keeps a part from being converted. -/
def obstacle? : Bool × Datum → Option Refusal
  | (true, key) => if key.named then none else some .keyForm
  | (false, integer n) =>
    if Value.leastInt ≤ n ∧ n ≤ Value.greatestInt then none else some .integerRange
  | _ => none

/-- The result, unless something keeps it from being one. -/
def barring {α : Type} (result : α) : Option Refusal → Except Refusal α
  | none => .ok result
  | some refusal => .error refusal

@[simp] theorem map_barring {α β : Type} (f : α → β) (result : α) (refusal : Option Refusal) :
    (barring result refusal).map f = barring (f result) refusal := by
  cases refusal <;> rfl

theorem keyName_eq : ∀ key : Datum,
    keyName key = barring (keyText key) (obstacle? (true, key))
  | bool _ | integer _ | str _ | char _ | bytes _ | nothing | unitNamed _ | present _ | choice _
  | choiceOf _ _ | choiceTuple _ _ | choiceRecord _ _ | seq _ | map _ | record _ => rfl
  | single x | double x => by
      cases finite : x.isFinite <;> simp [keyText, keyName, obstacle?, named, barring, finite]
  | wrapped content => keyName_eq content

/-- Only the key itself is in the way of a map key: what it wraps has a name just if it has. -/
theorem findSome?_key : ∀ key : Datum,
    (parts true key).findSome? obstacle? = obstacle? (true, key)
  | bool _ | integer _ | str _ | char _ | bytes _ | nothing | unitNamed _ | present _ | choice _
  | choiceOf _ _ | choiceTuple _ _ | choiceRecord _ _ | seq _ | map _ | record _ => rfl
  | single x | double x => by
      cases finite : x.isFinite <;> simp [parts, obstacle?, named, finite]
  | wrapped content => by
      have same : obstacle? (true, wrapped content) = obstacle? (true, content) := rfl
      rw [parts, List.findSome?_cons, findSome?_key content, same]
      cases obstacle? (true, content) <;> rfl

mutual

/-- A datum whose numbers are finite is converted to the value it stands for, unless a part of it
is in the way; the first one is the reason. -/
theorem toValue_eq : ∀ {datum : Datum}, datum.firstNonFinite? = none →
    datum.toValue = barring datum.image ((parts false datum).findSome? obstacle?)
  | bool _, _ | str _, _ | char _, _ | bytes _, _ | nothing, _ | unitNamed _, _
  | choice _, _ => rfl
  | integer n, _ => by
      simp only [toValue, parts, image, List.findSome?_singleton, obstacle?]
      split <;> rfl
  | single x, finite => by
      -- A finite number must not get out of range on its way to 64 bits.
      have isFinite := isFinite_of_nonFinite? finite
      rw [toValue, number, if_pos (Binary.isFinite_convert isFinite)]
      rfl
  | double x, finite => by
      rw [toValue, number, if_pos (isFinite_of_nonFinite? finite)]
      rfl
  | present content, finite | wrapped content, finite => by
      rw [firstNonFinite?] at finite
      rw [toValue, toValue_eq finite]
      rfl
  | choiceOf name content, finite => by
      rw [firstNonFinite?] at finite
      rw [toValue, toValue_eq finite, map_barring]
      rfl
  | choiceTuple _ items, finite | seq items, finite => by
      rw [firstNonFinite?] at finite
      rw [toValue, toItems_eq finite, map_barring]
      rfl
  | choiceRecord _ fields, finite | record fields, finite => by
      rw [firstNonFinite?] at finite
      rw [toValue, toMembers_eq finite, map_barring]
      rfl
  | map entries, finite => by
      rw [firstNonFinite?] at finite
      rw [toValue, toEntries_eq finite, map_barring]
      rfl

theorem toItems_eq : ∀ {items : List Datum}, firstNonFiniteItem? items = none →
    toItems items = barring (itemImages items) ((itemParts items).findSome? obstacle?)
  | [], _ => rfl
  | item :: rest, finite => by
      rw [firstNonFiniteItem?, Option.or_eq_none_iff] at finite
      rw [toItems, itemParts, itemImages, List.findSome?_append, toValue_eq finite.1,
        toItems_eq finite.2]
      simp only [map_barring]
      cases (parts false item).findSome? obstacle? <;> rfl

theorem toMembers_eq : ∀ {fields : List (String × Datum)}, firstNonFiniteField? fields = none →
    toMembers fields = barring (fieldImages fields) ((fieldParts fields).findSome? obstacle?)
  | [], _ => rfl
  | (name, item) :: rest, finite => by
      rw [firstNonFiniteField?, Option.or_eq_none_iff] at finite
      rw [toMembers, fieldParts, fieldImages, List.findSome?_append, toValue_eq finite.1,
        toMembers_eq finite.2]
      simp only [map_barring]
      cases (parts false item).findSome? obstacle? <;> rfl

theorem toEntries_eq : ∀ {entries : List (Datum × Datum)}, firstNonFiniteIn? entries = none →
    toEntries entries = barring (entryImages entries) ((entryParts entries).findSome? obstacle?)
  | [], _ => rfl
  | (key, item) :: rest, finite => by
      rw [firstNonFiniteIn?, Option.or_eq_none_iff, Option.or_eq_none_iff] at finite
      rw [toEntries, entryParts, entryImages, List.findSome?_append, List.findSome?_append,
        findSome?_key, keyName_eq, toValue_eq finite.1.2, toEntries_eq finite.2]
      simp only [map_barring]
      cases obstacle? (true, key) <;> cases (parts false item).findSome? obstacle? <;> rfl

end

/-! ## Both passes -/

theorem firstNonFinite?_floats (datum : Datum) :
    datum.firstNonFinite? = datum.floats.findSome? fun x => nonFinite? x.2 := by
  rw [firstNonFinite?_eq false, floats, ← List.head?_filterMap, ← List.head?_filterMap,
    List.filterMap_filterMap]
  rfl

theorem firstNonFinite?_eq_none_iff {datum : Datum} :
    datum.firstNonFinite? = none ↔ ∀ x ∈ datum.floats, x.2.isFinite = true := by
  rw [firstNonFinite?_floats, List.findSome?_eq_none_iff]
  refine forall₂_congr fun x _ => ⟨isFinite_of_nonFinite?, fun finite => ?_⟩
  rw [nonFinite?, if_pos finite]

theorem mem_integers {datum : Datum} {n : Int} :
    n ∈ datum.integers ↔ (false, integer n) ∈ parts false datum := by
  rw [integers, List.mem_filterMap]
  constructor
  · rintro ⟨part, member, found⟩
    split at found
    · cases found
      exact member
    · cases found
  · exact fun member => ⟨_, member, rfl⟩

theorem mem_keys {datum key : Datum} : key ∈ datum.keys ↔ (true, key) ∈ parts false datum := by
  rw [keys, List.mem_filterMap]
  constructor
  · rintro ⟨part, member, found⟩
    split at found
    · cases found
      exact member
    · cases found
  · exact fun member => ⟨_, member, rfl⟩

/-- Nothing is in the way if all integers are in range and all map keys have names. -/
theorem findSome?_obstacle_eq_none_iff {datum : Datum} :
    (parts false datum).findSome? obstacle? = none ↔
      (∀ n ∈ datum.integers, Value.leastInt ≤ n ∧ n ≤ Value.greatestInt) ∧
        ∀ key ∈ datum.keys, key.named = true := by
  rw [List.findSome?_eq_none_iff]
  constructor
  · refine fun free => ⟨fun n member => ?_, fun key member => ?_⟩
    · simpa [obstacle?] using free _ (mem_integers.1 member)
    · simpa [obstacle?] using free _ (mem_keys.1 member)
  · rintro ⟨inRange, allNamed⟩ part member
    unfold obstacle?
    split
    · exact if_pos (allNamed _ (mem_keys.2 member))
    · exact if_pos (inRange _ (mem_integers.2 member))
    · rfl

/-- What capturing a field promises. -/
structure Captures (field : String) (datum : Datum) : Prop where
  /-- It succeeds just if all floating-point numbers are finite, those in map keys included, all
  integers but those that are map keys are in range, and all map keys have names. -/
  succeeds : (∃ value, encodeField field datum = .ok value) ↔
    (∀ x ∈ datum.floats, x.2.isFinite = true) ∧
      (∀ n ∈ datum.integers, Value.leastInt ≤ n ∧ n ≤ Value.greatestInt) ∧
        ∀ key ∈ datum.keys, key.named = true
  /-- Then every number is a number in the value, and nothing but what is absent is null. -/
  faithful : ∀ value, encodeField field datum = .ok value → value = datum.image
  /-- The first number that is not finite is the reason, whatever else is in the way. -/
  refuses : ∀ before x after, datum.floats = before ++ x :: after →
    (∀ earlier ∈ before, earlier.2.isFinite = true) → x.2.isFinite = false →
      encodeField field datum = .error (.notRepresentable field (.nonFinite
        (if x.2.isNaN then "NaN" else if x.2.negative then "-inf" else "inf")))

/-- Every datum is captured or refused as promised. -/
theorem encodeField_captures (field : String) (datum : Datum) : Captures field datum where
  succeeds := by
    rw [encodeField, encode, ← firstNonFinite?_eq_none_iff, ← findSome?_obstacle_eq_none_iff]
    cases finite : datum.firstNonFinite? with
    | some text => exact iff_of_false nofun nofun
    | none =>
        simp only [toValue_eq finite, true_and]
        cases (parts false datum).findSome? obstacle? with
        | none => exact iff_of_true ⟨_, rfl⟩ rfl
        | some refusal => exact iff_of_false nofun nofun
  faithful value captured := by
    rw [encodeField, encode] at captured
    cases finite : datum.firstNonFinite? with
    | some text => rw [finite] at captured; cases captured
    | none =>
        simp only [finite, toValue_eq finite] at captured
        cases blocked : (parts false datum).findSome? obstacle? with
        | none => rw [blocked] at captured; cases captured; rfl
        | some refusal => rw [blocked] at captured; cases captured
  refuses before x after split finite infinite := by
    have first : datum.firstNonFinite? = nonFinite? x.2 := by
      have passed : (before.findSome? fun y => nonFinite? y.2) = none := by
        rw [List.findSome?_eq_none_iff]
        intro y member
        rw [nonFinite?, if_pos (finite y member)]
      rw [firstNonFinite?_floats, split, List.findSome?_append, passed, List.findSome?_cons,
        nonFinite?, if_neg (by simp [infinite])]
      rfl
    rw [encodeField, encode, first, nonFinite?, if_neg (by simp [infinite])]
    rfl

/-- A key without a name and an integer out of range come first, but the reason is the infinity
that is wrapped up in a later key, before the value of that key. -/
theorem infinity_refused : ∃ e,
    encodeField "readings"
      (.seq [.map [(.nothing, .integer (Value.greatestInt + 1))],
        .choiceOf "latest" (.map [(.wrapped (.single (.infinite true)), .double .nan)])]) =
        .error e ∧
      e.source? = some "-inf has no portable representation" :=
  ⟨_, (encodeField_captures ..).refuses [] ⟨.single, .infinite true⟩ [⟨.double, .nan⟩] rfl nofun
    rfl, rfl⟩

end Datum

end Dataflow
