import Dataflow.Log.Event
import Dataflow.Snapshot.Error
import Dataflow.Value.Decode

/-!
# Managed state

The part of a type's fields that moves with an actor.  A type lists its managed fields in order,
each either plain, with a codec for its values, or nested, holding a value of another type with
managed fields.  Capturing yields an object with one member per managed field.  Restoring takes the
members out one by one, then looks at what is left over, and assigns nothing before everything has
been decoded.
-/

namespace Dataflow

/-! ## Codecs -/

/-- How the values of a plain managed field are captured and read back. -/
structure Codec (α : Type) where
  /-- The value as data. -/
  datum : α → Datum
  /-- Reads a portable value. -/
  decode : Decoder α

namespace Codec

variable {α β : Type}

/-- The values that are captured without loss: reading what was written gives the value back. -/
def RoundTrips (codec : Codec α) : Prop :=
  ∀ a v, (codec.datum a).encode = .ok v → codec.decode v = some a

/-- Booleans. -/
def bool : Codec Bool := ⟨.bool, Decoder.bool⟩

/-- Integers with a sign. -/
def signed (bits : Nat) : Codec Int := ⟨.integer, Decoder.signed bits⟩

/-- Integers without a sign. -/
def unsigned (bits : Nat) : Codec Nat := ⟨fun n => .integer n, Decoder.unsigned bits⟩

/-- 64-bit floating-point numbers. -/
def float : Codec Binary64 := ⟨.double, Decoder.float⟩

/-- Strings. -/
def string : Codec String := ⟨.str, Decoder.string⟩

/-- Characters. -/
def char : Codec Char := ⟨.char, Decoder.char⟩

/-- Units. -/
def unit : Codec Unit := ⟨fun _ => .nothing, Decoder.unit⟩

/-- Portable values. -/
def value : Codec Value := ⟨Datum.ofValue, Decoder.value⟩

/-- Values that may be absent. -/
def option (codec : Codec α) : Codec (Option α) where
  datum
    | none => .nothing
    | some a => .present (codec.datum a)
  decode := Decoder.option codec.decode

/-- Lists. -/
def list (codec : Codec α) : Codec (List α) where
  datum items := .seq (items.map codec.datum)
  decode := Decoder.list codec.decode

/-- Pairs. -/
def pair (first : Codec α) (second : Codec β) : Codec (α × β) where
  datum p := .seq [first.datum p.1, second.datum p.2]
  decode := Decoder.pair first.decode second.decode

/-- Maps keyed by names. -/
def keyMap (codec : Codec α) : Codec (KeyMap α) where
  datum map := .map (map.entries.map fun entry => (.str entry.1, codec.datum entry.2))
  decode := Decoder.keyMap codec.decode

end Codec

/-- Captures a plain managed field. -/
def encodeField (field : String) (datum : Datum) : Except SnapshotError Value :=
  datum.encode.mapError (.notRepresentable field)

/-! ## Lists of managed fields -/

/-- The managed fields of a type, in order. -/
inductive ManagedFields : Type → Type 1 where
  /-- No more fields. -/
  | nil {σ : Type} : ManagedFields σ
  /-- A field that holds a portable value. -/
  | plain {σ α : Type} (name : String) (codec : Codec α) (get : σ → α) (set : α → σ → σ)
      (rest : ManagedFields σ) : ManagedFields σ
  /-- A field that holds a value of a type with managed fields of its own.  It is restored into
  that type's default. -/
  | nested {σ τ : Type} (name : String) (type : String) (default : τ) (inner : ManagedFields τ)
      (get : σ → τ) (set : τ → σ → σ) (rest : ManagedFields σ) : ManagedFields σ

namespace ManagedFields

/-- The names of the fields, in order. -/
def names {σ : Type} : ManagedFields σ → List String
  | nil => []
  | plain name _ _ _ rest => name :: names rest
  | nested name _ _ _ _ _ rest => name :: names rest

/-- The captured fields, in order; the first that cannot be captured is the error. -/
def capture {σ : Type} : ManagedFields σ → σ → Except SnapshotError (List (String × Value))
  | nil, _ => .ok []
  | plain name codec get _ rest, x =>
    match encodeField name (codec.datum (get x)) with
    | .error e => .error e
    | .ok v => (capture rest x).map ((name, v) :: ·)
  | nested name _ _ inner get _ rest, x =>
    match capture inner (get x) with
    | .error e => .error e
    | .ok members => (capture rest x).map ((name, .object members) :: ·)

/-- The managed state of a value. -/
def state {σ : Type} (fields : ManagedFields σ) (x : σ) : Except SnapshotError Value :=
  (fields.capture x).map Value.object

/-- What is left of a state when every managed field has been taken: an error if that is not
allowed (`reject`), otherwise worth a warning. -/
def finish (reject : Bool) (type : String) (rest : Entries Value) :
    Logged (Except SnapshotError Unit) := do
  Logged.useSettings
  match rest with
  | [] => pure (.ok ())
  | (field, _) :: _ =>
    if reject then pure (.error (.unexpectedField type field))
    else do
      Logged.report .warn .snapshots "Ignoring unmanaged field in restored state"
        [("ty", .str type), ("field", .str field)]
      pure (.ok ())

/-- Takes the managed fields out of a state.  The result is the assignment of all of them, and what
is left over. -/
def take {σ : Type} (reject : Bool) (type : String) :
    ManagedFields σ → Entries Value → Logged (Except SnapshotError ((σ → σ) × Entries Value))
  | nil, entries => pure (.ok (id, entries))
  | plain name codec _ set more, entries =>
    match entries.find? name with
    | none => pure (.error (.missingField type name))
    | some v =>
      match codec.decode v with
      | none => pure (.error (.decode name))
      | some a => do
        match ← take reject type more (entries.erase name) with
        | .error e => pure (.error e)
        | .ok (assign, rest) => pure (.ok (fun x => assign (set a x), rest))
  | nested name innerType default inner _ set more, entries =>
    match entries.find? name with
    | none => pure (.error (.missingField type name))
    | some (.obj members) => do
      match ← take reject innerType inner members with
      | .error e => pure (.error e)
      | .ok (fill, left) =>
        match ← finish reject innerType left with
        | .error e => pure (.error e)
        | .ok () =>
          match ← take reject type more (entries.erase name) with
          | .error e => pure (.error e)
          | .ok (assign, rest) => pure (.ok (fun x => assign (set (fill default) x), rest))
    | some _ => pure (.error (.notAnObject innerType))

/-- Restores the managed fields of a value; the others keep what they hold.  The answer has the
value as it is afterwards, also if the state is refused. -/
def setState {σ : Type} (reject : Bool) (type : String) (fields : ManagedFields σ) (x : σ)
    (state : Value) : Logged (σ × Except SnapshotError Unit) :=
  match state with
  | .obj members => do
    match ← take reject type fields members with
    | .error e => pure (x, .error e)
    | .ok (assign, rest) =>
      match ← finish reject type rest with
      | .error e => pure (x, .error e)
      | .ok () => pure (assign x, .ok ())
  | _ => pure (x, .error (.notAnObject type))

end ManagedFields

/-! ## Types with managed state -/

/-- A type with managed fields: its name in messages, its default and its fields. -/
structure ManagedType (σ : Type) where
  name : String
  default : σ
  fields : ManagedFields σ

namespace ManagedType

variable {σ : Type}

/-- The managed state of a value. -/
def state (type : ManagedType σ) (x : σ) : Except SnapshotError Value := type.fields.state x

/-- Restores the managed fields of a value. -/
def setState (type : ManagedType σ) (reject : Bool) (x : σ) (state : Value) :
    Logged (σ × Except SnapshotError Unit) :=
  type.fields.setState reject type.name x state

/-- The default with its managed fields restored. -/
def fromState (type : ManagedType σ) (reject : Bool) (state : Value) :
    Logged (Except SnapshotError σ) := do
  let (x, result) ← type.setState reject type.default state
  pure (result.map fun () => x)

end ManagedType

end Dataflow
