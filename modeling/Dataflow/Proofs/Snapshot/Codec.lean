import Dataflow.Proofs.KeyMap
import Dataflow.Proofs.Number.Binary
import Dataflow.Snapshot.Managed

/-!
# Values that survive being captured

A managed field is captured as a portable value and read back by its codec.  For which values of
the field this gives the same value again is told codec by codec.

* `Value.Valid` — the values that have a portable form: their integers and floating-point numbers
  are in range, and the members of objects are in name order.
* `Datum.toValue_ofValue` — captured as data, a valid value is itself.
* `Codec.Keeps` — capturing succeeds and reading back gives the same value.  Of the optional ones,
  a present value is kept unless it is captured as null (`Codec.KeepsAs.some`).
-/

namespace Dataflow

/-! ## Valid values -/

namespace Value

mutual

/-- All numbers are in range, and objects have their members in name order. -/
def Valid : Value → Prop
  | null => True
  | bool _ => True
  | int n => leastInt ≤ n ∧ n ≤ greatestInt
  | float x => x.isFinite = true
  | str _ => True
  | arr items => ValidItems items
  | obj members => Entries.Ascending members ∧ ValidMembers members

/-- All items of a list are valid. -/
def ValidItems : List Value → Prop
  | [] => True
  | item :: rest => Valid item ∧ ValidItems rest

/-- All values of members are valid. -/
def ValidMembers : List (String × Value) → Prop
  | [] => True
  | (_, item) :: rest => Valid item ∧ ValidMembers rest

end

/-- The floating-point number that a valid value stands for is finite. -/
theorem Valid.isFinite_asFloat {value : Value} (valid : value.Valid) {x : Binary64}
    (h : value.asFloat? = some x) : x.isFinite = true := by
  cases value with
  | int n =>
      cases h
      exact Binary.isFinite_ofInt valid.1 valid.2
  | float y =>
      cases h
      exact valid
  | null => cases h
  | bool b => cases h
  | str s => cases h
  | arr items => cases h
  | obj members => cases h

theorem asInt64?_eq_some {value : Value} {n : Int} (h : value.asInt64? = some n) :
    -0x8000000000000000 ≤ n ∧ n ≤ 0x7fffffffffffffff := by
  cases value with
  | int m =>
      rw [asInt64?] at h
      split at h
      · cases h
        assumption
      · cases h
  | null => cases h
  | bool b => cases h
  | float x => cases h
  | str s => cases h
  | arr items => cases h
  | obj members => cases h

end Value

/-! ## Values as data -/

namespace Datum

mutual

theorem firstNonFinite?_ofValue : ∀ {value : Value}, value.Valid →
    (ofValue value).firstNonFinite? = none
  | .null, _ => rfl
  | .bool _, _ => rfl
  | .int _, _ => rfl
  | .float x, valid => by
      rw [Value.Valid] at valid
      rw [ofValue, firstNonFinite?, nonFinite?, if_pos valid]
  | .str _, _ => rfl
  | .arr items, valid => by
      rw [Value.Valid] at valid
      rw [ofValue, firstNonFinite?]
      exact firstNonFiniteItem?_ofItems valid
  | .obj members, valid => by
      rw [Value.Valid] at valid
      rw [ofValue, firstNonFinite?]
      exact firstNonFiniteIn?_ofMembers valid.2

theorem firstNonFiniteItem?_ofItems : ∀ {items : List Value}, Value.ValidItems items →
    firstNonFiniteItem? (ofItems items) = none
  | [], _ => rfl
  | item :: rest, valid => by
      rw [Value.ValidItems] at valid
      rw [ofItems, firstNonFiniteItem?, firstNonFinite?_ofValue valid.1,
        firstNonFiniteItem?_ofItems valid.2]
      rfl

theorem firstNonFiniteIn?_ofMembers : ∀ {members : List (String × Value)},
    Value.ValidMembers members → firstNonFiniteIn? (ofMembers members) = none
  | [], _ => rfl
  | (name, item) :: rest, valid => by
      rw [Value.ValidMembers] at valid
      rw [ofMembers, firstNonFiniteIn?, firstNonFinite?_ofValue valid.1,
        firstNonFiniteIn?_ofMembers valid.2]
      rfl

end

mutual

/-- Captured as data, a valid value is itself. -/
theorem toValue_ofValue : ∀ {value : Value}, value.Valid → (ofValue value).toValue = .ok value
  | .null, _ => rfl
  | .bool _, _ => rfl
  | .int n, valid => by
      rw [Value.Valid] at valid
      rw [ofValue, toValue, if_pos valid]
  | .float x, valid => by
      rw [Value.Valid] at valid
      rw [ofValue, toValue, number, if_pos valid]
  | .str _, _ => rfl
  | .arr items, valid => by
      rw [Value.Valid] at valid
      rw [ofValue, toValue, toItems_ofItems valid]
      rfl
  | .obj members, valid => by
      rw [Value.Valid] at valid
      rw [ofValue, toValue, toEntries_ofMembers valid.2]
      show Except.ok (Value.object members) = .ok (.obj members)
      rw [Value.object, Entries.ofList_eq_self valid.1]

theorem toItems_ofItems : ∀ {items : List Value}, Value.ValidItems items →
    toItems (ofItems items) = .ok items
  | [], _ => rfl
  | item :: rest, valid => by
      rw [Value.ValidItems] at valid
      simp only [ofItems, toItems, toValue_ofValue valid.1, toItems_ofItems valid.2]
      rfl

theorem toEntries_ofMembers : ∀ {members : List (String × Value)}, Value.ValidMembers members →
    toEntries (ofMembers members) = .ok members
  | [], _ => rfl
  | (name, item) :: rest, valid => by
      rw [Value.ValidMembers] at valid
      simp only [ofMembers, toEntries, keyName, toValue_ofValue valid.1,
        toEntries_ofMembers valid.2]
      rfl

end

end Datum

/-! ## Codecs -/

namespace Codec

variable {α β : Type}

/-- The value is captured as the given portable value, and that one is read as the value. -/
structure KeepsAs (codec : Codec α) (a : α) (v : Value) : Prop where
  finite : (codec.datum a).firstNonFinite? = none
  captured : (codec.datum a).toValue = .ok v
  decoded : codec.decode v = some a

/-- The value is captured, and reading back gives it again. -/
def Keeps (codec : Codec α) (a : α) : Prop := ∃ v, codec.KeepsAs a v

theorem KeepsAs.encode {codec : Codec α} {a : α} {v : Value} (h : codec.KeepsAs a v) :
    (codec.datum a).encode = .ok v := by
  simp only [Datum.encode, h.finite, h.captured]

theorem keepsAs_bool (b : Bool) : bool.KeepsAs b (.bool b) := ⟨rfl, rfl, rfl⟩

theorem keepsAs_string (s : String) : string.KeepsAs s (.str s) := ⟨rfl, rfl, rfl⟩

theorem keepsAs_signed {n : Int} (least : -0x8000000000000000 ≤ n)
    (greatest : n ≤ 0x7fffffffffffffff) : (signed 64).KeepsAs n (.int n) where
  finite := rfl
  captured := by
    have range : Value.leastInt ≤ n ∧ n ≤ Value.greatestInt := by
      rw [Value.leastInt, Value.greatestInt]
      omega
    show (Datum.integer n).toValue = .ok (.int n)
    rw [Datum.toValue, if_pos range]
  decoded := by
    show Decoder.int _ _ (.int n) = some n
    rw [Decoder.int, if_pos]
    have half : Nat.pow 2 (64 - 1) = 9223372036854775808 := by decide
    rw [half]
    omega

theorem keepsAs_unsigned {n : Nat} (h : n < 2 ^ 64) : (unsigned 64).KeepsAs n (.int n) where
  finite := rfl
  captured := by
    have range : Value.leastInt ≤ (n : Int) ∧ (n : Int) ≤ Value.greatestInt := by
      rw [Value.leastInt, Value.greatestInt]
      omega
    show (Datum.integer n).toValue = .ok (.int n)
    rw [Datum.toValue, if_pos range]
  decoded := by
    show (Decoder.int _ _ (.int n)).map Int.toNat = some n
    rw [Decoder.int, if_pos]
    · rfl
    · have all : Nat.pow 2 64 = 18446744073709551616 := by decide
      rw [all]
      omega

/-- Whatever is read back fits its type. -/
theorem lt_of_decode_unsigned {bits n : Nat} {v : Value}
    (h : (unsigned bits).decode v = some n) : n < 2 ^ bits := by
  obtain ⟨m, read, rfl⟩ := Option.map_eq_some_iff.1 h
  cases v with
  | int k =>
      rw [Decoder.int] at read
      split at read
      next range =>
        cases read
        have power : Nat.pow 2 bits = 2 ^ bits := rfl
        rw [power] at range
        omega
      · cases read
  | null => cases read
  | bool b => cases read
  | float x => cases read
  | str s => cases read
  | arr items => cases read
  | obj members => cases read

theorem keepsAs_float {x : Binary64} (h : x.isFinite = true) : float.KeepsAs x (.float x) where
  finite := by
    show Datum.nonFinite? x = none
    rw [Datum.nonFinite?, if_pos h]
  captured := by
    show Except.ok (Datum.number x) = .ok (.float x)
    rw [Datum.number, if_pos h]
  decoded := rfl

/-- Portable values are kept, provided that they are valid. -/
theorem keepsAs_value {v : Value} (valid : v.Valid) : value.KeepsAs v v :=
  ⟨Datum.firstNonFinite?_ofValue valid, Datum.toValue_ofValue valid, rfl⟩

theorem keepsAs_none (codec : Codec α) : codec.option.KeepsAs none .null := ⟨rfl, rfl, rfl⟩

/-- A present value is kept, unless what it is captured as reads as absent. -/
theorem KeepsAs.some {codec : Codec α} {a : α} {v : Value} (h : codec.KeepsAs a v)
    (present : v ≠ .null) : codec.option.KeepsAs (some a) v where
  finite := h.finite
  captured := h.captured
  decoded := by
    show Decoder.option codec.decode v = Option.some (Option.some a)
    unfold Decoder.option
    split
    · exact absurd rfl present
    · rw [h.decoded]
      rfl

theorem keeps_option {codec : Codec α} {a : Option α}
    (h : ∀ b, a = some b → ∃ v, codec.KeepsAs b v ∧ v ≠ .null) : codec.option.Keeps a := by
  cases a with
  | none => exact ⟨.null, keepsAs_none codec⟩
  | some b =>
      obtain ⟨v, kept, present⟩ := h b rfl
      exact ⟨v, kept.some present⟩

/-- A list is kept if its items are. -/
theorem keeps_list {codec : Codec α} {items : List α} (h : ∀ a ∈ items, codec.Keeps a) :
    codec.list.Keeps items := by
  have all : ∃ vs, Datum.firstNonFiniteItem? (items.map codec.datum) = none ∧
      Datum.toItems (items.map codec.datum) = .ok vs ∧ vs.mapM codec.decode = some items := by
    induction items with
    | nil => exact ⟨[], rfl, rfl, rfl⟩
    | cons a rest ih =>
        obtain ⟨v, kept⟩ := h a (List.mem_cons_self ..)
        obtain ⟨vs, finite, captured, decoded⟩ :=
          ih fun b member => h b (List.mem_cons_of_mem _ member)
        refine ⟨v :: vs, ?_, ?_, ?_⟩
        · simp only [List.map_cons, Datum.firstNonFiniteItem?, kept.finite, finite]
          rfl
        · simp only [List.map_cons, Datum.toItems, kept.captured, captured]
          rfl
        · simp [List.mapM_cons, kept.decoded, decoded]
  obtain ⟨vs, finite, captured, decoded⟩ := all
  refine ⟨.arr vs, finite, ?_, decoded⟩
  show (Datum.toItems (items.map codec.datum)).map Value.arr = .ok (.arr vs)
  rw [captured]
  rfl

end Codec

end Dataflow
