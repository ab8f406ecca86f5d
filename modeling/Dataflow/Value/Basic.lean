import Dataflow.KeyMap
import Dataflow.Number.Binary

/-!
# Portable values

What tokens carry and snapshots hold: null, booleans, integers, 64-bit floating-point numbers,
strings, lists and objects.  An integer and a floating-point number of the same size are different
values.  The members of an object are kept in name order; `Value.object` builds them that way.
-/

namespace Dataflow

/-- A portable value. -/
inductive Value where
  | null
  | bool (b : Bool)
  /-- An integer; those that a value can hold lie in `Value.leastInt .. Value.greatestInt`. -/
  | int (n : Int)
  | float (x : Binary64)
  | str (s : String)
  | arr (items : List Value)
  /-- An object, by its members in name order. -/
  | obj (members : List (String × Value))

namespace Value

instance : Inhabited Value := ⟨null⟩

/-- The least integer of a value. -/
def leastInt : Int := -0x8000000000000000

/-- The greatest integer of a value. -/
def greatestInt : Int := 0xffffffffffffffff

/-- An object with these members; of several with one name the last one counts. -/
def object (members : List (String × Value)) : Value := obj (Entries.ofList members)

/-- A natural number as a value. -/
def nat (n : Nat) : Value := int n

/-- A list of strings. -/
def strings (items : List String) : Value := arr (items.map str)

/-! ## Equality -/

mutual

/-- Equality of values.  Floating-point numbers are compared as numbers, so the two zeros are
equal. -/
def same : Value → Value → Bool
  | null, null => true
  | bool a, bool b => a == b
  | int a, int b => a == b
  | float a, float b => a.equal b
  | str a, str b => a == b
  | arr a, arr b => sameItems a b
  | obj a, obj b => sameMembers a b
  | _, _ => false

/-- Equality of the items of two lists. -/
def sameItems : List Value → List Value → Bool
  | [], [] => true
  | a :: as, b :: bs => same a b && sameItems as bs
  | _, _ => false

/-- Equality of the members of two objects, in order. -/
def sameMembers : List (String × Value) → List (String × Value) → Bool
  | [], [] => true
  | (k, a) :: as, (l, b) :: bs => k == l && same a b && sameMembers as bs
  | _, _ => false

end

/-! ## Looking inside -/

/-- The member of an object with this name. -/
def member? (name : String) : Value → Option Value
  | obj members => Entries.find? name members
  | _ => none

/-- The integer, if it fits into 64 bits with a sign. -/
def asInt64? : Value → Option Int
  | int n => if -0x8000000000000000 ≤ n ∧ n ≤ 0x7fffffffffffffff then some n else none
  | _ => none

/-- The sum of the integers among values that fit into 64 bits with a sign. -/
def intSum : List Value → Int
  | [] => 0
  | value :: rest => value.asInt64?.getD 0 + intSum rest

/-- The integer, if it fits into 64 bits without a sign. -/
def asNat64? : Value → Option Nat
  | int n => if 0 ≤ n ∧ n ≤ 0xffffffffffffffff then some n.toNat else none
  | _ => none

/-- The number as a floating-point number. -/
def asFloat? : Value → Option Binary64
  | int n => some (.ofInt n)
  | float x => some x
  | _ => none

/-- Whether this is null. -/
def isNull : Value → Bool
  | null => true
  | _ => false

end Value

end Dataflow
