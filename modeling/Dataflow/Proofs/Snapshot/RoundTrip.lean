import Dataflow.Proofs.Snapshot.Fields

/-!
# The round trip of managed state

A captured state is restored into any value of the type.  What the state says is one half of the
result; the other half are the fields that are not managed, which no state says anything of.

* `Codec.ReadsBack`, `ManagedFields.ReadsBack` — a plain field whose value is captured at all is
  read back as it was.
* `ManagedFields.Untouched` — whatever is not managed is as before.
* `ManagedFields.Rebuilt` — every nested value, on all levels, is its type's default but for its
  managed fields.  `ManagedFields.setState_untouched` and `ManagedFields.setState_rebuilt` say this
  of restoring any state, captured or not.
* `ManagedType.state_roundTrip` — the whole round trip.
-/

namespace Dataflow

/-! ## What is read back -/

namespace Codec

variable {α : Type} {codec : Codec α} {a : α}

/-- If the value is captured, it is read back as it was. -/
def ReadsBack (codec : Codec α) (a : α) : Prop :=
  ∀ v, (codec.datum a).encode = .ok v → codec.decode v = some a

theorem ReadsBack.keepsAs (h : codec.ReadsBack a) {v : Value}
    (captured : (codec.datum a).encode = .ok v) : codec.KeepsAs a v := by
  have read := h v captured
  rw [Datum.encode] at captured
  split at captured
  · cases captured
  · exact ⟨‹_›, captured, read⟩

theorem roundTrips_string : string.RoundTrips := by
  intro s v captured
  cases captured
  rfl

theorem roundTrips_unsigned : (unsigned 64).RoundTrips := by
  intro n v captured
  change Datum.toValue (.integer n) = .ok v at captured
  rw [Datum.toValue] at captured
  split at captured
  next range =>
    cases captured
    refine (keepsAs_unsigned ?_).decoded
    rw [Value.greatestInt] at range
    omega
  · cases captured

end Codec

namespace ManagedFields

variable {σ : Type}

/-- Every plain field whose value is captured at all is read back as it was. -/
def ReadsBack {σ : Type} : ManagedFields σ → σ → Prop
  | nil, _ => True
  | plain _ codec get _ rest, x => codec.ReadsBack (get x) ∧ ReadsBack rest x
  | nested _ _ _ inner get _ rest, x => ReadsBack inner (get x) ∧ ReadsBack rest x

/-- The codecs of all plain fields lose nothing. -/
def RoundTrips {σ : Type} : ManagedFields σ → Prop
  | nil => True
  | plain _ codec _ _ rest => codec.RoundTrips ∧ RoundTrips rest
  | nested _ _ _ inner _ _ rest => RoundTrips inner ∧ RoundTrips rest

/-- Where the codecs lose nothing, the fields of every value are read back. -/
theorem RoundTrips.readsBack {fields : ManagedFields σ} (h : fields.RoundTrips) (x : σ) :
    fields.ReadsBack x := by
  induction fields with
  | nil => trivial
  | plain _ _ get _ _ ih => exact ⟨h.1 (get x), ih h.2 x⟩
  | nested _ _ _ _ get _ _ inner rest => exact ⟨inner h.1 (get x), rest h.2 x⟩

/-- What is captured and read back is kept. -/
theorem ReadsBack.keeps {fields : ManagedFields σ} {x : σ} (h : fields.ReadsBack x)
    {members : List (String × Value)} (captured : fields.capture x = .ok members) :
    fields.Keeps x := by
  induction fields generalizing members with
  | nil => trivial
  | plain name codec get _ rest ih =>
      obtain ⟨v, others, first, later, -⟩ := capture_plain_ok captured
      exact ⟨⟨v, h.1.keepsAs first⟩, ih h.2 later⟩
  | nested name _ _ inner get _ rest ihInner ih =>
      obtain ⟨innerMembers, others, first, later, -⟩ := capture_nested_ok captured
      exact ⟨ihInner h.1 first, ih h.2 later⟩

/-! ## What a state says nothing of -/

/-- Whatever the managed fields leave alone is in `z` as it is in `y`. -/
def Untouched (fields : ManagedFields σ) (y z : σ) : Prop :=
  ∀ {α : Type} (read : σ → α), fields.Leave read → read z = read y

/-- In the nested values, on all levels, what is not managed is as in the default of the type. -/
def Rebuilt {σ : Type} : ManagedFields σ → σ → Prop
  | nil, _ => True
  | plain _ _ _ _ rest, z => Rebuilt rest z
  | nested _ _ default inner get _ rest, z =>
    inner.Untouched default (get z) ∧ Rebuilt inner (get z) ∧ Rebuilt rest z

section Take

variable {α : Type} {reject : Bool} {type name : String} {entries left : Entries Value}
  {get : σ → α} {more : ManagedFields σ} {assign : σ → σ}

theorem take_plain_ok {codec : Codec α} {set : α → σ → σ}
    (h : ((plain name codec get set more).take reject type entries).value = .ok (assign, left)) :
    ∃ a others, (more.take reject type (entries.erase name)).value = .ok (others, left) ∧
      assign = fun x => others (set a x) := by
  rw [take] at h
  split at h
  · cases h
  · split at h
    · cases h
    next a _ =>
      rw [Logged.value_bind] at h
      split at h
      · cases h
      next others _ taken =>
        cases h
        exact ⟨a, others, taken, rfl⟩

theorem take_nested_ok {innerType : String} {default : α} {inner : ManagedFields α}
    {set : α → σ → σ}
    (h : ((nested name innerType default inner get set more).take reject type entries).value =
      .ok (assign, left)) :
    ∃ members fill unknown others,
      (inner.take reject innerType members).value = .ok (fill, unknown) ∧
      (more.take reject type (entries.erase name)).value = .ok (others, left) ∧
      assign = fun x => others (set (fill default) x) := by
  rw [take] at h
  split at h
  · cases h
  next members _ =>
    rw [Logged.value_bind] at h
    split at h
    · cases h
    next fill unknown filled =>
      rw [Logged.value_bind] at h
      split at h
      · cases h
      · rw [Logged.value_bind] at h
        split at h
        · cases h
        next others _ taken =>
          cases h
          exact ⟨members, fill, unknown, others, filled, taken, rfl⟩
  · cases h

end Take

/-- Assigning what was taken out of a state leaves everything else alone. -/
theorem take_untouched {fields : ManagedFields σ} {reject : Bool} {type : String}
    {entries left : Entries Value} {assign : σ → σ}
    (h : (fields.take reject type entries).value = .ok (assign, left)) (y : σ) :
    fields.Untouched y (assign y) := by
  induction fields generalizing entries with
  | nil =>
      cases h
      intro α read _
      rfl
  | plain name codec get set more ih =>
      obtain ⟨a, others, taken, rfl⟩ := take_plain_ok h
      intro α read leave
      exact (ih taken _ read leave.2).trans (leave.1 a y)
  | nested name innerType default inner get set more _ ih =>
      obtain ⟨members, fill, unknown, others, -, taken, rfl⟩ := take_nested_ok h
      intro α read leave
      exact (ih taken _ read leave.2).trans (leave.1 (fill default) y)

/-- Assigning what was taken out of a state builds nested values up from their defaults. -/
theorem take_rebuilt {fields : ManagedFields σ} (lawful : fields.Lawful) {reject : Bool}
    {type : String} {entries left : Entries Value} {assign : σ → σ}
    (h : (fields.take reject type entries).value = .ok (assign, left)) (y : σ) :
    fields.Rebuilt (assign y) := by
  induction fields generalizing type entries left with
  | nil => trivial
  | plain name codec get set more ih =>
      obtain ⟨a, others, taken, rfl⟩ := take_plain_ok h
      exact ih lawful.2.2.2 taken (set a y)
  | nested name innerType default inner get set more ihInner ih =>
      obtain ⟨reads, apart, -, within, later⟩ := lawful
      obtain ⟨members, fill, unknown, others, filled, taken, rfl⟩ := take_nested_ok h
      have kept : get (others (set (fill default) y)) = fill default :=
        (take_untouched taken _ get apart).trans (reads ..)
      refine ⟨?_, ?_, ih later taken _⟩
      · rw [kept]
        exact take_untouched filled default
      · rw [kept]
        exact ihInner within filled default

section SetState

variable {fields : ManagedFields σ} {reject : Bool} {type : String} {y z : σ} {state : Value}

/-- Restoring a state is refused, and leaves the value as it is, or assigns what was taken out of
the state. -/
theorem setState_cases (fields : ManagedFields σ) (reject : Bool) (type : String) (y : σ)
    (state : Value) :
    (∃ e, (fields.setState reject type y state).value = (y, .error e)) ∨
    ∃ entries left assign, (fields.take reject type entries).value = .ok (assign, left) ∧
      (fields.setState reject type y state).value = (assign y, .ok ()) := by
  cases state with
  | obj entries =>
      rw [setState, Logged.value_bind]
      split
      next e _ => exact Or.inl ⟨e, rfl⟩
      next assign left taken =>
        rw [Logged.value_bind]
        split
        next e _ => exact Or.inl ⟨e, rfl⟩
        next => exact Or.inr ⟨entries, left, assign, taken, rfl⟩
  | _ => exact Or.inl ⟨_, rfl⟩

theorem setState_ok (h : (fields.setState reject type y state).value = (z, .ok ())) :
    ∃ entries left assign, (fields.take reject type entries).value = .ok (assign, left) ∧
      z = assign y := by
  rcases setState_cases fields reject type y state with
    ⟨e, refused⟩ | ⟨entries, left, assign, taken, restored⟩
  · cases refused.symm.trans h
  · cases restored.symm.trans h
    exact ⟨entries, left, assign, taken, rfl⟩

/-- A value into which a state cannot be restored is left as it is. -/
theorem setState_error {e : SnapshotError}
    (h : (fields.setState reject type y state).value = (z, .error e)) : z = y := by
  rcases setState_cases fields reject type y state with ⟨_, refused⟩ | ⟨_, _, _, -, restored⟩
  · cases refused.symm.trans h
    rfl
  · cases restored.symm.trans h

/-- Restoring a state leaves the fields that are not managed as they were. -/
theorem setState_untouched (h : (fields.setState reject type y state).value = (z, .ok ())) :
    fields.Untouched y z := by
  obtain ⟨_, _, assign, taken, rfl⟩ := setState_ok h
  exact take_untouched taken y

/-- Restoring a state builds nested values up from their defaults. -/
theorem setState_rebuilt (lawful : fields.Lawful)
    (h : (fields.setState reject type y state).value = (z, .ok ())) : fields.Rebuilt z := by
  obtain ⟨_, _, assign, taken, rfl⟩ := setState_ok h
  exact take_rebuilt lawful taken y

end SetState

end ManagedFields

/-! ## The round trip -/

namespace ManagedType

variable {σ : Type}

/-- What is made of a state alone is the default with the state restored into it. -/
theorem fromState_eq_ok_iff {type : ManagedType σ} {reject : Bool} {state : Value} {z : σ} :
    (type.fromState reject state).value = .ok z ↔
      (type.setState reject type.default state).value = (z, .ok ()) := by
  rw [fromState, Logged.value_bind]
  rcases (type.setState reject type.default state).value with ⟨x, e | ⟨⟩⟩
  · exact iff_of_false nofun nofun
  · simp [Except.map]

/-- A captured state can be restored into every value, whether left-over members are rejected or
not.  The result agrees with the captured value on the managed fields and is captured alike; all
that is not managed is as before, and in nested values as in their defaults.  Restored into the
default, this gives the value that is made from the state alone. -/
theorem state_roundTrip {type : ManagedType σ} (lawful : type.fields.Lawful) {x : σ}
    (readsBack : type.fields.ReadsBack x) {s : Value} (captured : type.state x = .ok s)
    (reject : Bool) :
    (∀ y, ∃ z, (type.setState reject y s).value = (z, .ok ()) ∧ type.fields.Agree x z ∧
      type.fields.Untouched y z ∧ type.fields.Rebuilt z ∧ type.state z = .ok s) ∧
    ∃ z, (type.fromState reject s).value = .ok z ∧ type.fields.Agree x z ∧
      type.fields.Untouched type.default z ∧ type.fields.Rebuilt z := by
  have kept : type.fields.Keeps x := by
    rw [state, ManagedFields.state] at captured
    cases members : type.fields.capture x with
    | error e => simp [members, Except.map] at captured
    | ok _ => exact readsBack.keeps members
  obtain ⟨s', captured', restores⟩ := ManagedFields.setState_state lawful kept
  cases captured.symm.trans captured'
  have into : ∀ y, ∃ z, (type.setState reject y s).value = (z, .ok ()) ∧ type.fields.Agree x z ∧
      type.fields.Untouched y z ∧ type.fields.Rebuilt z ∧ type.state z = .ok s := by
    intro y
    obtain ⟨z, restored, agree⟩ := restores reject type.name y
    refine ⟨z, restored, agree, ManagedFields.setState_untouched restored,
      ManagedFields.setState_rebuilt lawful restored, ?_⟩
    rw [← captured, state, state, ManagedFields.state, ManagedFields.state,
      ManagedFields.capture_congr agree]
  obtain ⟨z, restored, agree, untouched, rebuilt, -⟩ := into type.default
  exact ⟨into, z, fromState_eq_ok_iff.2 restored, agree, untouched, rebuilt⟩

end ManagedType

namespace Samples

/-- A gauge with its level.  The readings are not managed. -/
structure Gauge where
  level : Nat := 0
  readings : List Nat := [0]

/-- The managed fields of a gauge. -/
def Gauge.managed : ManagedType Gauge where
  name := "Gauge"
  default := {}
  fields := .plain "level" (.unsigned 64) Gauge.level (fun level s => { s with level }) .nil

/-- A labelled station with a gauge.  The serial number is not managed. -/
structure Station where
  serial : Nat := 0
  label : String := ""
  gauge : Gauge := {}

/-- The managed fields of a station. -/
def Station.managed : ManagedType Station where
  name := "Station"
  default := {}
  fields :=
    .plain "label" .string Station.label (fun label s => { s with label }) <|
    .nested "gauge" Gauge.managed.name Gauge.managed.default Gauge.managed.fields
      Station.gauge (fun gauge s => { s with gauge }) .nil

/-- The label and the level move from one station to another, which keeps its serial number.  The
readings of neither are found in it. -/
theorem station_roundTrip : ∃ s z,
    Station.managed.state ⟨7, "north", ⟨12, [3, 9, 12]⟩⟩ = .ok s ∧
    (Station.managed.setState true ⟨8, "south", ⟨5, [5]⟩⟩ s).value = (z, .ok ()) ∧
    z.label = "north" ∧ z.gauge.level = 12 ∧ z.serial = 8 ∧ z.gauge.readings = [0] ∧
    Station.managed.state z = .ok s := by
  have lawful : Station.managed.fields.Lawful :=
    ⟨fun _ _ => rfl, ⟨fun _ _ => rfl, trivial⟩, by decide, fun _ _ => rfl, trivial, by decide,
      ManagedFields.lawful_single fun _ _ => rfl, trivial⟩
  have lossless : Station.managed.fields.RoundTrips :=
    ⟨Codec.roundTrips_string, ⟨Codec.roundTrips_unsigned, trivial⟩, trivial⟩
  have captured : Station.managed.state ⟨7, "north", ⟨12, [3, 9, 12]⟩⟩ = .ok
      (.object [("label", .str "north"), ("gauge", .object [("level", .int 12)])]) := rfl
  obtain ⟨into, -⟩ := ManagedType.state_roundTrip lawful (lossless.readsBack _) captured true
  obtain ⟨z, restored, agree, untouched, rebuilt, again⟩ := into ⟨8, "south", ⟨5, [5]⟩⟩
  obtain ⟨label, ⟨level, -⟩, -⟩ := agree
  obtain ⟨inner, -, -⟩ := rebuilt
  have serial : z.serial = 8 :=
    untouched Station.serial ⟨fun _ _ => rfl, fun _ _ => rfl, trivial⟩
  have readings : z.gauge.readings = [0] := inner Gauge.readings ⟨fun _ _ => rfl, trivial⟩
  exact ⟨_, z, captured, restored, label.symm, level.symm, serial, readings, again⟩

end Samples

end Dataflow
