import Dataflow.Proofs.Snapshot.RoundTrip

/-!
# Which states are accepted

Restoring a state takes its members out one by one and stops at the first thing that is wrong, on
whatever level that is.  Here everything that is wrong with a state is listed at once, in the order
in which one would come upon it: a state is accepted if the list is empty, and otherwise refused
with its first entry.

* `ManagedFields.faults` — all that is wrong with a state, on all levels.
* `ManagedFields.Fits`, `ManagedType.Accepts` — the states in which nothing is wrong.
* `ManagedFields.Filled` — what the managed fields hold after a state was accepted.
* `ManagedFields.setState_judged` — the two outcomes of restoring a state.
* `ManagedType.setState_exact` — which states are accepted, what becomes of them, and what a refused
  one is refused with.
-/

namespace Dataflow

namespace ManagedFields

variable {σ τ : Type}

/-! ## What is wrong with a state -/

/-- The members that are no managed fields. -/
def unmanaged (fields : ManagedFields σ) (members : Entries Value) : Entries Value :=
  members.filter fun entry => entry.1 ∉ fields.names

/-- What is wrong with the members that are left over, if they are rejected. -/
def leftover (reject : Bool) (type : String) (rest : Entries Value) : List SnapshotError :=
  if reject then rest.map fun entry => .unexpectedField type entry.1 else []

/-- What is wrong with the members for the managed fields, in the order of the fields. -/
def fieldFaults {σ : Type} (reject : Bool) (type : String) (members : Entries Value) :
    ManagedFields σ → List SnapshotError
  | nil => []
  | plain name codec _ _ rest =>
    (match members.find? name with
      | none => [.missingField type name]
      | some v => if (codec.decode v).isSome then [] else [.decode name]) ++
    fieldFaults reject type members rest
  | nested name innerType _ inner _ _ rest =>
    (match members.find? name with
      | none => [.missingField type name]
      | some (.obj within) =>
        fieldFaults reject innerType within inner ++
          leftover reject innerType (inner.unmanaged within)
      | some _ => [.notAnObject innerType]) ++
    fieldFaults reject type members rest

/-- What is wrong with a state: with its members for the managed fields, and with the others. -/
def faults (reject : Bool) (type : String) (fields : ManagedFields σ) : Value → List SnapshotError
  | .obj members =>
    fieldFaults reject type members fields ++ leftover reject type (fields.unmanaged members)
  | _ => [.notAnObject type]

/-- The members hold a value for every managed field: one that decodes if the field is plain, and
one that its own type makes a value from if it is nested. -/
def Fits {σ : Type} (reject : Bool) (members : Entries Value) : ManagedFields σ → Prop
  | nil => True
  | plain name codec _ _ rest =>
    (∃ v, members.find? name = some v ∧ ∃ a, codec.decode v = some a) ∧ Fits reject members rest
  | nested name type default inner _ _ rest =>
    (∃ v, members.find? name = some v ∧
      ∃ a, (ManagedType.fromState ⟨type, default, inner⟩ reject v).value = .ok a) ∧
    Fits reject members rest

/-- The managed fields hold what the members say: plain ones the decoded value, and nested ones the
value that their own type makes from it. -/
def Filled {σ : Type} (reject : Bool) (members : Entries Value) : ManagedFields σ → σ → Prop
  | nil, _ => True
  | plain name codec get _ rest, z =>
    (∃ v, members.find? name = some v ∧ codec.decode v = some (get z)) ∧
    Filled reject members rest z
  | nested name type default inner get _ rest, z =>
    (∃ v, members.find? name = some v ∧
      (ManagedType.fromState ⟨type, default, inner⟩ reject v).value = .ok (get z)) ∧
    Filled reject members rest z

/-! ## One field less -/

section Rest

variable {reject : Bool} {type name : String} {members first second : Entries Value}
  {fields : ManagedFields σ}

theorem fieldFaults_congr
    (same : ∀ name ∈ fields.names, first.find? name = second.find? name) :
    fieldFaults reject type first fields = fieldFaults reject type second fields := by
  induction fields with
  | nil => rfl
  | plain name _ _ _ _ ih =>
      rw [fieldFaults, fieldFaults, same name (List.mem_cons_self ..),
        ih fun other member => same other (List.mem_cons_of_mem _ member)]
  | nested name _ _ _ _ _ _ _ ih =>
      rw [fieldFaults, fieldFaults, same name (List.mem_cons_self ..),
        ih fun other member => same other (List.mem_cons_of_mem _ member)]

theorem Filled.congr {z : σ} (same : ∀ name ∈ fields.names, first.find? name = second.find? name)
    (filled : fields.Filled reject first z) : fields.Filled reject second z := by
  induction fields with
  | nil => trivial
  | plain name _ _ _ _ ih =>
      exact ⟨same name (List.mem_cons_self ..) ▸ filled.1,
        ih (fun other member => same other (List.mem_cons_of_mem _ member)) filled.2⟩
  | nested name _ _ _ _ _ _ _ ih =>
      exact ⟨same name (List.mem_cons_self ..) ▸ filled.1,
        ih (fun other member => same other (List.mem_cons_of_mem _ member)) filled.2⟩

/-- What the other fields find in the members does not depend on a name that is not theirs. -/
theorem find?_erase_of_fresh (fresh : name ∉ fields.names) :
    ∀ other ∈ fields.names, (members.erase name).find? other = members.find? other :=
  fun _ member => Entries.find?_erase_of_ne (by rintro rfl; exact fresh member) members

theorem fieldFaults_erase (fresh : name ∉ fields.names) :
    fieldFaults reject type (members.erase name) fields = fieldFaults reject type members fields :=
  fieldFaults_congr (find?_erase_of_fresh fresh)

theorem Filled.of_erase (fresh : name ∉ fields.names) {z : σ}
    (filled : fields.Filled reject (members.erase name) z) : fields.Filled reject members z :=
  filled.congr (find?_erase_of_fresh fresh)

/-- What no field manages, once the member for the first field is out. -/
theorem unmanaged_cons {all : ManagedFields σ} (names : all.names = name :: fields.names) :
    all.unmanaged members = fields.unmanaged (members.erase name) := by
  simp [unmanaged, names, Entries.erase, List.filter_filter, Bool.and_comm]

end Rest

/-! ## Taking the fields out -/

section Take

variable {reject : Bool} {type name : String} {members : Entries Value} {fields : ManagedFields σ}

/-- What is left over is an error with its first member, if it is one at all. -/
theorem value_finish (reject : Bool) (type : String) (rest : Entries Value) :
    (finish reject type rest).value =
      match (leftover reject type rest).head? with
      | none => .ok ()
      | some e => .error e := by
  cases rest with
  | nil => cases reject <;> rfl
  | cons entry rest => cases reject <;> rfl

theorem value_setState_obj (fields : ManagedFields σ) (y : σ) :
    (fields.setState reject type y (.obj members)).value =
      match (fields.take reject type members).value with
      | .error e => (y, .error e)
      | .ok (assign, rest) =>
        match (leftover reject type rest).head? with
        | none => (assign y, .ok ())
        | some e => (y, .error e) := by
  simp only [setState, Logged.value_bind]
  rcases (fields.take reject type members).value with e | ⟨assign, rest⟩
  · rfl
  · simp only [Logged.value_bind, value_finish]
    cases (leftover reject type rest).head? <;> rfl

theorem value_take_plain {α : Type} (codec : Codec α) (get : σ → α) (set : α → σ → σ) :
    ((plain name codec get set fields).take reject type members).value =
      match members.find? name with
      | none => .error (.missingField type name)
      | some v =>
        match codec.decode v with
        | none => .error (.decode name)
        | some a =>
          (fields.take reject type (members.erase name)).value.map fun taken =>
            (fun x => taken.1 (set a x), taken.2) := by
  cases found : members.find? name with
  | none =>
      simp only [take, found]
      rfl
  | some v =>
      cases decoded : codec.decode v with
      | none =>
          simp only [take, found, decoded]
          rfl
      | some a =>
          simp only [take, found, decoded, Logged.value_bind]
          rcases (fields.take reject type (members.erase name)).value with e | ⟨assign, rest⟩
          · rfl
          · rfl

/-- A nested field takes what its own type makes of the default. -/
theorem value_take_nested (innerType : String) (default : τ) (inner : ManagedFields τ)
    (get : σ → τ) (set : τ → σ → σ) :
    ((nested name innerType default inner get set fields).take reject type members).value =
      match members.find? name with
      | none => .error (.missingField type name)
      | some v =>
        match (inner.setState reject innerType default v).value with
        | (_, .error e) => .error e
        | (a, .ok ()) =>
          (fields.take reject type (members.erase name)).value.map fun taken =>
            (fun x => taken.1 (set a x), taken.2) := by
  cases found : members.find? name with
  | none =>
      simp only [take, found]
      rfl
  | some v =>
      cases v with
      | obj within =>
          simp only [take, found, value_setState_obj, Logged.value_bind]
          rcases (inner.take reject innerType within).value with e | ⟨fill, left⟩
          · rfl
          · simp only [Logged.value_bind, value_finish]
            cases (leftover reject innerType left).head? with
            | some e => rfl
            | none =>
                simp only [Logged.value_bind]
                rcases (fields.take reject type (members.erase name)).value with
                  e | ⟨assign, rest⟩
                · rfl
                · rfl
      | _ =>
          simp only [take, found]
          rfl

theorem fieldFaults_nested (innerType : String) (default : τ) (inner : ManagedFields τ)
    (get : σ → τ) (set : τ → σ → σ) :
    fieldFaults reject type members (nested name innerType default inner get set fields) =
      (match members.find? name with
        | none => [.missingField type name]
        | some v => faults reject innerType inner v) ++ fieldFaults reject type members fields := by
  rw [fieldFaults]
  cases members.find? name with
  | none => rfl
  | some v => cases v <;> rfl

/-- The outcomes of taking the fields out of members. -/
inductive Taken (fields : ManagedFields σ) (reject : Bool) (type : String)
    (members : Entries Value) : Except SnapshotError ((σ → σ) × Entries Value) → Prop
  /-- Something is wrong with the fields. -/
  | refused {e : SnapshotError} : (fieldFaults reject type members fields).head? = some e →
      Taken fields reject type members (.error e)
  /-- Nothing is wrong with them, and what is left over are the other members. -/
  | taken {assign : σ → σ} : fieldFaults reject type members fields = [] →
      (∀ y, fields.Filled reject members (assign y)) →
      Taken fields reject type members (.ok (assign, fields.unmanaged members))

/-- The outcomes of restoring a state into a value. -/
inductive Judged (fields : ManagedFields σ) (reject : Bool) (type : String) (state : Value)
    (y : σ) : σ × Except SnapshotError Unit → Prop
  /-- Something is wrong with the state.  The value is as it was. -/
  | refused {e : SnapshotError} : (faults reject type fields state).head? = some e →
      Judged fields reject type state y (y, .error e)
  /-- Nothing is wrong with it. -/
  | accepted {members : Entries Value} {z : σ} : state = .obj members →
      faults reject type fields state = [] → fields.Filled reject members z →
      Judged fields reject type state y (z, .ok ())

/-- A state is judged by what is taken out of it and what is left over. -/
theorem Judged.of_taken
    (taken : ∀ members, fields.Taken reject type members (fields.take reject type members).value)
    (y : σ) (state : Value) :
    fields.Judged reject type state y (fields.setState reject type y state).value := by
  cases state with
  | obj members =>
      have outcome := taken members
      rw [value_setState_obj]
      generalize (fields.take reject type members).value = result at outcome ⊢
      cases outcome with
      | refused wrong =>
          refine .refused ?_
          rw [faults, List.head?_append, wrong, Option.some_or]
      | @taken assign right filled =>
          cases rest : (leftover reject type (fields.unmanaged members)).head? with
          | none =>
              simp only [rest]
              refine .accepted rfl ?_ (filled y)
              rw [faults, right, List.head?_eq_none_iff.1 rest, List.append_nil]
          | some e =>
              simp only [rest]
              refine .refused ?_
              rw [faults, right, List.nil_append, rest]
  | _ => exact .refused rfl

/-- A field with which nothing is wrong, and then the others. -/
theorem Taken.later {whole : ManagedFields σ} (update : σ → σ)
    {result : Except SnapshotError ((σ → σ) × Entries Value)}
    (right : fieldFaults reject type members whole = fieldFaults reject type members fields)
    (left : whole.unmanaged members = fields.unmanaged (members.erase name))
    (fresh : name ∉ fields.names) (taken : fields.Taken reject type (members.erase name) result)
    (filled : ∀ assign rest y, result = .ok (assign, rest) →
      fields.Filled reject members (assign (update y)) →
        whole.Filled reject members (assign (update y))) :
    whole.Taken reject type members
      (result.map fun taken => (fun x => taken.1 (update x), taken.2)) := by
  cases taken with
  | refused wrong =>
      rw [fieldFaults_erase fresh, ← right] at wrong
      exact .refused wrong
  | @taken assign none fills =>
      rw [fieldFaults_erase fresh, ← right] at none
      rw [Except.map, ← left]
      exact .taken none fun y => filled assign _ y rfl ((fills (update y)).of_erase fresh)

/-- These are all outcomes of taking fields out. -/
theorem take_taken {fields : ManagedFields σ} (lawful : fields.Lawful) (reject : Bool)
    (type : String) (members : Entries Value) :
    fields.Taken reject type members (fields.take reject type members).value := by
  induction fields generalizing type members with
  | @nil σ =>
      have all : (nil : ManagedFields σ).unmanaged members = members := by
        simp [unmanaged, names]
      have outcome : (nil : ManagedFields σ).Taken reject type members
          (.ok (id, (nil : ManagedFields σ).unmanaged members)) := .taken rfl fun _ => trivial
      rwa [all] at outcome
  | plain name codec get set rest ih =>
      obtain ⟨reads, apart, fresh, others⟩ := lawful
      cases found : members.find? name with
      | none =>
          simp only [value_take_plain, found]
          exact .refused (by rw [fieldFaults, found]; rfl)
      | some v =>
          cases decoded : codec.decode v with
          | none =>
              simp only [value_take_plain, found, decoded]
              exact .refused (by simp [fieldFaults, found, decoded])
          | some a =>
              simp only [value_take_plain, found, decoded]
              have right : fieldFaults reject type members (plain name codec get set rest) =
                  fieldFaults reject type members rest := by
                simp [fieldFaults, found, decoded]
              refine Taken.later (set a) right (unmanaged_cons rfl) fresh
                (ih others type (members.erase name)) fun assign left y ran filled => ⟨?_, filled⟩
              have kept : get (assign (set a y)) = a :=
                (take_untouched ran _ get apart).trans (reads a y)
              exact ⟨v, found, by rw [kept, decoded]⟩
  | nested name innerType default inner get set rest ihInner ih =>
      obtain ⟨reads, apart, fresh, within, others⟩ := lawful
      cases found : members.find? name with
      | none =>
          simp only [value_take_nested, found]
          exact .refused (by rw [fieldFaults_nested, found]; rfl)
      | some v =>
          have judged := Judged.of_taken (ihInner within innerType) default v
          rcases made : (inner.setState reject innerType default v).value with ⟨a, result⟩
          rw [made] at judged
          cases judged with
          | refused wrong =>
              simp only [value_take_nested, found, made]
              exact .refused (by simp [fieldFaults_nested, found, wrong])
          | accepted _ none _ =>
              simp only [value_take_nested, found, made]
              have right : fieldFaults reject type members
                  (nested name innerType default inner get set rest) =
                    fieldFaults reject type members rest := by
                simp [fieldFaults_nested, found, none]
              refine Taken.later (set a) right (unmanaged_cons rfl) fresh
                (ih others type (members.erase name))
                fun assign left y ran filled => ⟨?_, filled⟩
              have kept : get (assign (set a y)) = a :=
                (take_untouched ran _ get apart).trans (reads a y)
              exact ⟨v, found, by rw [kept]; exact ManagedType.fromState_eq_ok_iff.2 made⟩

/-- These are all outcomes of restoring a state. -/
theorem setState_judged {fields : ManagedFields σ} (lawful : fields.Lawful) (reject : Bool)
    (type : String) (y : σ) (state : Value) :
    fields.Judged reject type state y (fields.setState reject type y state).value :=
  .of_taken (take_taken lawful reject type) y state

end Take

/-! ## Nothing is wrong -/

section Right

variable {fields : ManagedFields σ} {reject : Bool} {type : String} {members : Entries Value}
  {state : Value} {e : SnapshotError}

/-- A state with which nothing is wrong is accepted, whatever it is restored into. -/
theorem exists_setState_iff (lawful : fields.Lawful) (y : σ) :
    (∃ z, (fields.setState reject type y state).value = (z, .ok ())) ↔
      faults reject type fields state = [] := by
  have judged := setState_judged lawful reject type y state
  generalize (fields.setState reject type y state).value = result at judged ⊢
  cases judged with
  | refused wrong =>
      refine iff_of_false nofun fun none => ?_
      rw [none] at wrong
      cases wrong
  | @accepted _ z _ none _ => exact iff_of_true ⟨z, rfl⟩ none

/-- A state is refused with the first thing that is wrong with it, and then the value is as it
was. -/
theorem setState_error_iff (lawful : fields.Lawful) (y : σ) {z : σ} :
    (fields.setState reject type y state).value = (z, .error e) ↔
      z = y ∧ (faults reject type fields state).head? = some e := by
  have judged := setState_judged lawful reject type y state
  generalize (fields.setState reject type y state).value = result at judged ⊢
  cases judged with
  | refused wrong =>
      rw [wrong, Prod.mk.injEq, Except.error.injEq, Option.some.injEq]
      exact and_congr_left fun _ => eq_comm
  | accepted _ none _ =>
      rw [none]
      exact iff_of_false nofun nofun

theorem leftover_eq_nil_iff :
    leftover reject type (fields.unmanaged members) = [] ↔
      (reject = true → ∀ entry ∈ members, entry.1 ∈ fields.names) := by
  cases reject with
  | false => simp [leftover]
  | true => simp [leftover, unmanaged, List.filter_eq_nil_iff]

theorem fieldFaults_eq_nil_iff (lawful : fields.Lawful) :
    fieldFaults reject type members fields = [] ↔ fields.Fits reject members := by
  induction fields with
  | nil => exact iff_of_true rfl trivial
  | plain name codec get set rest ih =>
      rw [fieldFaults, List.append_eq_nil_iff, ih lawful.2.2.2, Fits]
      refine and_congr_left fun _ => ?_
      cases members.find? name with
      | none => simp
      | some v => cases decoded : codec.decode v <;> simp [decoded]
  | nested name innerType default inner get set rest _ ih =>
      obtain ⟨-, -, -, within, others⟩ := lawful
      rw [fieldFaults_nested, List.append_eq_nil_iff, ih others, Fits]
      refine and_congr_left fun _ => ?_
      cases members.find? name with
      | none => simp
      | some v =>
          simp only [Option.some.injEq, exists_eq_left']
          rw [← exists_setState_iff within default]
          refine (exists_congr fun _ => ?_).symm
          exact ManagedType.fromState_eq_ok_iff

/-- Among members in name order, the one that is complained of is the least that is left over. -/
theorem leftover_least (ascending : Entries.Ascending members)
    (first : (leftover reject type (fields.unmanaged members)).head? = some e) :
    ∃ field, e = .unexpectedField type field ∧ field ∈ members.map Prod.fst ∧
      field ∉ fields.names ∧
      ∀ other ∈ members.map Prod.fst, other ∉ fields.names → field ≤ other := by
  cases reject with
  | false => cases first
  | true =>
      have sorted : Entries.Ascending (fields.unmanaged members) := List.Pairwise.filter _ ascending
      cases rest : fields.unmanaged members with
      | nil =>
          rw [rest] at first
          cases first
      | cons entry others =>
          rw [rest] at first sorted
          cases first
          have left : entry ∈ fields.unmanaged members := by simp [rest]
          rw [unmanaged, List.mem_filter, decide_eq_true_iff] at left
          refine ⟨entry.1, rfl, List.mem_map_of_mem left.1, left.2, fun name member free => ?_⟩
          obtain ⟨other, there, rfl⟩ := List.mem_map.1 member
          have among : other ∈ entry :: others := by
            rw [← rest, unmanaged, List.mem_filter, decide_eq_true_iff]
            exact ⟨there, free⟩
          rcases List.mem_cons.1 among with rfl | later
          · exact String.le_refl _
          · have above := (List.pairwise_cons.1 sorted).1 other later
            exact String.not_lt.1 fun below => String.lt_irrefl _ (String.lt_trans below above)

end Right

end ManagedFields

/-! ## States of a type -/

namespace ManagedType

variable {σ : Type}

/-- The state is an object that holds a fitting value for every managed field, and nothing else if
other members are rejected. -/
def Accepts (type : ManagedType σ) (reject : Bool) (state : Value) : Prop :=
  ∃ members, state = .obj members ∧ type.fields.Fits reject members ∧
    (reject = true → ∀ entry ∈ members, entry.1 ∈ type.fields.names)

theorem accepts_iff {type : ManagedType σ} (lawful : type.fields.Lawful) {reject : Bool}
    {state : Value} :
    type.Accepts reject state ↔ type.fields.faults reject type.name state = [] := by
  cases state with
  | obj members =>
      rw [ManagedFields.faults, List.append_eq_nil_iff,
        ManagedFields.fieldFaults_eq_nil_iff lawful, ManagedFields.leftover_eq_nil_iff]
      constructor
      · rintro ⟨_, ⟨⟩, fits, allowed⟩
        exact ⟨fits, allowed⟩
      · rintro ⟨fits, allowed⟩
        exact ⟨members, rfl, fits, allowed⟩
  | _ => exact iff_of_false nofun nofun

/-- Whatever value it is restored into, a state is accepted if and only if it is an object that
holds a fitting value for every managed field, and nothing else if that is rejected.  Then every
managed field holds what the state says, and the others what they held.  Otherwise the whole value
is as it was, and the error is the first thing that is wrong; it is about a member that is left over
only if nothing is wrong with the managed fields, and then about the least such member. -/
theorem setState_exact {type : ManagedType σ} (lawful : type.fields.Lawful) (reject : Bool) (y : σ)
    (state : Value) :
    ((∃ z, (type.setState reject y state).value = (z, .ok ())) ↔ type.Accepts reject state) ∧
    (∀ z, (type.setState reject y state).value = (z, .ok ()) →
      ∃ members, state = .obj members ∧ type.fields.Filled reject members z ∧
        type.fields.Untouched y z) ∧
    (∀ z e, (type.setState reject y state).value = (z, .error e) ↔
      z = y ∧ (type.fields.faults reject type.name state).head? = some e) ∧
    ∀ members z e, state = .obj members → state.Valid → type.fields.Fits reject members →
      (type.setState reject y state).value = (z, .error e) →
        ∃ field, e = .unexpectedField type.name field ∧ field ∈ members.map Prod.fst ∧
          field ∉ type.fields.names ∧
          ∀ other ∈ members.map Prod.fst, other ∉ type.fields.names → field ≤ other := by
  refine ⟨?_, fun z accepted => ?_, fun z e => ManagedFields.setState_error_iff lawful y, ?_⟩
  · rw [accepts_iff lawful]
    exact ManagedFields.exists_setState_iff lawful y
  · have judged := ManagedFields.setState_judged lawful reject type.name y state
    have untouched : type.fields.Untouched y z := ManagedFields.setState_untouched accepted
    rw [setState] at accepted
    rw [accepted] at judged
    cases judged with
    | accepted object _ filled => exact ⟨_, object, filled, untouched⟩
  · rintro members z e rfl valid fits refused
    obtain ⟨-, first⟩ := (ManagedFields.setState_error_iff lawful y).1 refused
    rw [ManagedFields.faults, (ManagedFields.fieldFaults_eq_nil_iff lawful).2 fits,
      List.nil_append] at first
    rw [Value.Valid] at valid
    exact ManagedFields.leftover_least valid.1 first

end ManagedType

namespace Samples

theorem Station.lawful : Station.managed.fields.Lawful :=
  ⟨fun _ _ => rfl, ⟨fun _ _ => rfl, trivial⟩, by decide, fun _ _ => rfl, trivial, by decide,
    ManagedFields.lawful_single fun _ _ => rfl, trivial⟩

/-- The level is no number, and there are two members too many, one of them inside.  The level comes
first, and the label is as it was, though it could have been read. -/
theorem station_exact :
    let state := Value.object
      [("label", .str "north"), ("depth", .int 3),
        ("gauge", .object [("level", .str "high"), ("drift", .int 1)])]
    let south : Station := ⟨8, "south", ⟨5, [5]⟩⟩
    (Station.managed.setState true south state).value = (south, .error (.decode "level")) ∧
    ¬Station.managed.Accepts true state ∧
    Station.managed.fields.faults true "Station" state =
      [.decode "level", .unexpectedField "Gauge" "drift",
        .unexpectedField "Station" "depth"] := by
  intro state south
  obtain ⟨accepted, -, refused, -⟩ := ManagedType.setState_exact Station.lawful true south state
  have wrong : (Station.managed.setState true south state).value =
      (south, .error (.decode "level")) := (refused _ _).2 ⟨rfl, rfl⟩
  refine ⟨wrong, fun accepts => ?_, rfl⟩
  obtain ⟨z, same⟩ := accepted.2 accepts
  rw [wrong] at same
  cases same

end Samples

end Dataflow
