import Dataflow.Proofs.Snapshot.Acceptance

/-!
# Strict and lenient restoring

Whether members that no field manages are rejected is asked on every level, and on the inner ones
while the outer fields are still being decoded.  All the same the two ways to restore a state differ
in one thing only.  Let a state be pruned of everything that is not managed, on all levels: the
lenient way cannot tell it from the pruned one, and the strict way accepts it just if it is lenient
about it and there was nothing to prune.

* `ManagedFields.pruned` — a state without its unmanaged members.
* `ManagedFields.KeepsPlain`, `ManagedFields.Reads` — what plain fields hold is taken as it is.
* `ManagedFields.take_lenient` — the lenient way looks at nothing but the pruned state.
* `ManagedFields.take_strict_iff` — what the strict way takes out, compared with the lenient way.
* `ManagedType.strict_refuses_only` — both for whole states.
-/

namespace Dataflow

/-! ## Members by name -/

namespace Entries

variable {α : Type u}

/-- Entries under the names that are kept are found as before. -/
theorem find?_filter {names : List String} {name : String} (kept : name ∈ names)
    (entries : Entries α) :
    find? name (entries.filter fun entry => entry.1 ∈ names) = entries.find? name := by
  induction entries with
  | nil => rfl
  | cons head rest ih =>
      by_cases here : head.1 = name
      · simp [find?, here, kept]
      · by_cases stays : head.1 ∈ names
        · simp [find?, here, stays, ih]
        · simp [find?, here, stays, ih]

end Entries

namespace Value

/-- Changes the members of an object. -/
def onMembers (change : Entries Value → Entries Value) : Value → Value
  | obj members => obj (change members)
  | v => v

theorem validMembers_iff {members : Entries Value} :
    ValidMembers members ↔ ∀ entry ∈ members, entry.2.Valid := by
  induction members with
  | nil => simp [ValidMembers]
  | cons head rest ih => simp [ValidMembers, ih]

end Value

namespace ManagedFields

variable {σ : Type}

/-! ## Pruned states -/

/-- Members of some names only, with a change to their values. -/
def restrict (names : List String) (change : String → Value → Value) (members : Entries Value) :
    Entries Value :=
  (members.filter fun entry => entry.1 ∈ names).map fun entry => (entry.1, change entry.1 entry.2)

/-- The value of a member, pruned as the managed field of this name has it: the value of a plain
field is left as it is, an object for a nested field keeps the members that are managed in it. -/
def prunedAt {σ : Type} : ManagedFields σ → String → Value → Value
  | nil, _, v => v
  | plain name _ _ _ rest, key, v => if key = name then v else prunedAt rest key v
  | nested name _ _ inner _ _ rest, key, v =>
    if key = name then v.onMembers (restrict inner.names fun key v => prunedAt inner key v)
    else prunedAt rest key v

/-- The members that are managed, each of them pruned. -/
def trim (fields : ManagedFields σ) (members : Entries Value) : Entries Value :=
  restrict fields.names fields.prunedAt members

/-- A state without the members that are not managed, on all levels. -/
def pruned (fields : ManagedFields σ) (state : Value) : Value := state.onMembers fields.trim

/-- Plain fields, on all levels, are given the same in two states. -/
def KeepsPlain {σ : Type} : ManagedFields σ → Value → Value → Prop
  | nil, _, _ => True
  | plain name _ _ _ rest, first, second =>
    second.member? name = first.member? name ∧ KeepsPlain rest first second
  | nested name _ _ inner _ _ rest, first, second =>
    (∀ v, first.member? name = some v → ∃ w, second.member? name = some w ∧ KeepsPlain inner v w) ∧
    KeepsPlain rest first second

/-- Plain fields, on all levels, hold what their codecs read in a state, from the whole value that
it gives them. -/
def Reads {σ : Type} : ManagedFields σ → Value → σ → Prop
  | nil, _, _ => True
  | plain name codec get _ rest, state, z =>
    (∃ v, state.member? name = some v ∧ codec.decode v = some (get z)) ∧ Reads rest state z
  | nested name _ _ inner get _ rest, state, z =>
    (∃ v, state.member? name = some v ∧ Reads inner v (get z)) ∧ Reads rest state z

section Pruned

variable {α τ : Type} {name type : String} {v : Value} {members : Entries Value}
  {fields rest : ManagedFields σ}

theorem prunedAt_plain_self (codec : Codec α) (get : σ → α) (set : α → σ → σ) :
    (plain name codec get set rest).prunedAt name = id := by
  funext v
  rw [prunedAt, if_pos rfl]
  rfl

theorem prunedAt_nested_self (default : τ) (inner : ManagedFields τ) (get : σ → τ)
    (set : τ → σ → σ) :
    (nested name type default inner get set rest).prunedAt name = inner.pruned := by
  funext v
  rw [prunedAt, if_pos rfl]
  rfl

theorem prunedAt_plain_later (codec : Codec α) (get : σ → α) (set : α → σ → σ)
    (fresh : name ∉ rest.names) :
    ∀ other ∈ rest.names, (plain name codec get set rest).prunedAt other = rest.prunedAt other := by
  intro other managed
  have different : other ≠ name := by
    rintro rfl
    exact fresh managed
  funext v
  rw [prunedAt, if_neg different]

theorem prunedAt_nested_later (default : τ) (inner : ManagedFields τ) (get : σ → τ)
    (set : τ → σ → σ) (fresh : name ∉ rest.names) :
    ∀ other ∈ rest.names,
      (nested name type default inner get set rest).prunedAt other = rest.prunedAt other := by
  intro other managed
  have different : other ≠ name := by
    rintro rfl
    exact fresh managed
  funext v
  rw [prunedAt, if_neg different]

theorem find?_trim (managed : name ∈ fields.names) :
    (fields.trim members).find? name = (members.find? name).map (fields.prunedAt name) := by
  rw [trim, restrict, Entries.find?_map, Entries.find?_filter managed]

theorem member?_pruned (managed : name ∈ fields.names) (state : Value) :
    (fields.pruned state).member? name = (state.member? name).map (fields.prunedAt name) := by
  cases state with
  | obj members => exact find?_trim managed
  | _ => rfl

/-- Every value of a managed field is pruned already. -/
def Trimmed (fields : ManagedFields σ) (members : Entries Value) : Prop :=
  ∀ name ∈ fields.names, ∀ v, members.find? name = some v → fields.prunedAt name v = v

/-- Nothing is pruned from an object if it has no member too many and its values have none. -/
theorem eq_pruned_iff (ascending : Entries.Ascending members) :
    Value.obj members = fields.pruned (.obj members) ↔
      fields.unmanaged members = [] ∧ fields.Trimmed members := by
  have distinct : (members.map Prod.fst).Nodup := ascending.nodup_names
  constructor
  · intro same
    rw [pruned, Value.onMembers, Value.obj.injEq] at same
    have all : members.filter (fun entry => entry.1 ∈ fields.names) = members := by
      refine List.filter_eq_self.2 fun entry member => ?_
      rw [same, trim, restrict, List.mem_map] at member
      obtain ⟨old, among, rfl⟩ := member
      exact (List.mem_filter.1 among).2
    constructor
    · rw [unmanaged, List.filter_eq_nil_iff]
      intro entry member
      have managed := List.filter_eq_self.1 all entry member
      simpa using managed
    · intro name managed v found
      have after : (fields.trim members).find? name = some v := by rw [← same, found]
      rw [find?_trim managed, found, Option.map_some, Option.some.injEq] at after
      exact after
  · rintro ⟨none, trimmed⟩
    have managed : ∀ entry ∈ members, entry.1 ∈ fields.names := by
      intro entry member
      have kept := List.filter_eq_nil_iff.1 none entry member
      simpa using kept
    have all : members.filter (fun entry => entry.1 ∈ fields.names) = members :=
      List.filter_eq_self.2 fun entry member => decide_eq_true (managed entry member)
    have same (entry : String × Value) (member : entry ∈ members) :
        (entry.1, fields.prunedAt entry.1 entry.2) = id entry := by
      have found := Entries.find?_of_mem distinct member
      rw [trimmed entry.1 (managed entry member) entry.2 found]
      rfl
    rw [pruned, Value.onMembers, trim, restrict, all, List.map_congr_left same, List.map_id]

/-- Members that are trimmed are trimmed for the fields after the first one. -/
theorem find?_erase_trimmed {all : ManagedFields σ} {trimmed : Entries Value}
    (fresh : name ∉ rest.names)
    (agree : ∀ other ∈ rest.names, all.prunedAt other = rest.prunedAt other)
    (same : ∀ other ∈ name :: rest.names,
      trimmed.find? other = (members.find? other).map (all.prunedAt other)) :
    ∀ other ∈ rest.names, (trimmed.erase name).find? other =
      ((members.erase name).find? other).map (rest.prunedAt other) := by
  intro other managed
  rw [find?_erase_of_fresh fresh other managed, find?_erase_of_fresh fresh other managed,
    same other (List.mem_cons_of_mem _ managed), agree other managed]

theorem trimmed_cons_iff {all : ManagedFields σ} (names : all.names = name :: rest.names)
    (fresh : name ∉ rest.names)
    (agree : ∀ other ∈ rest.names, all.prunedAt other = rest.prunedAt other) :
    all.Trimmed members ↔
      (∀ v, members.find? name = some v → all.prunedAt name v = v) ∧
        rest.Trimmed (members.erase name) := by
  rw [Trimmed, names, List.forall_mem_cons]
  refine and_congr_right fun _ => forall₂_congr fun other managed => ?_
  rw [find?_erase_of_fresh fresh other managed, agree other managed]

/-- Pruning a state takes nothing from its plain fields. -/
theorem keepsPlain_of_pruned (lawful : fields.Lawful) {first second : Value}
    (same : ∀ name ∈ fields.names,
      second.member? name = (first.member? name).map (fields.prunedAt name)) :
    fields.KeepsPlain first second := by
  induction fields generalizing first second with
  | nil => trivial
  | plain name codec get set rest ih =>
      obtain ⟨-, -, fresh, others⟩ := lawful
      constructor
      · rw [same name (List.mem_cons_self ..), prunedAt_plain_self, Option.map_id, id]
      · refine ih others fun other managed => ?_
        rw [same other (List.mem_cons_of_mem _ managed),
          prunedAt_plain_later codec get set fresh other managed]
  | nested name type default inner get set rest ihInner ih =>
      obtain ⟨-, -, fresh, within, others⟩ := lawful
      constructor
      · intro v found
        refine ⟨inner.pruned v, ?_, ihInner within fun key managed => ?_⟩
        · rw [same name (List.mem_cons_self ..), prunedAt_nested_self, found, Option.map_some]
        · exact member?_pruned managed v
      · refine ih others fun other managed => ?_
        rw [same other (List.mem_cons_of_mem _ managed),
          prunedAt_nested_later default inner get set fresh other managed]

theorem keepsPlain_pruned (lawful : fields.Lawful) (state : Value) :
    fields.KeepsPlain state (fields.pruned state) :=
  keepsPlain_of_pruned lawful fun _ managed => member?_pruned managed state

end Pruned

/-! ## The lenient way -/

section Lenient

variable {type name : String} {members trimmed : Entries Value} {fields rest : ManagedFields σ}

/-- Members that are left over do not matter. -/
theorem value_setState_lenient (fields : ManagedFields σ) (type : String) (y : σ)
    (members : Entries Value) :
    (fields.setState false type y (.obj members)).value =
      match (fields.take false type members).value.map Prod.fst with
      | .error e => (y, .error e)
      | .ok assign => (assign y, .ok ()) := by
  rw [value_setState_obj]
  rcases (fields.take false type members).value with e | ⟨assign, rest⟩
  · rfl
  · rfl

theorem setState_lenient_ok_iff {y z : σ} :
    (fields.setState false type y (.obj members)).value = (z, .ok ()) ↔
      ∃ taken, (fields.take false type members).value = .ok taken ∧ taken.1 y = z := by
  rw [value_setState_lenient]
  rcases (fields.take false type members).value with e | taken <;> simp [Except.map]

/-- What is taken out after one more update depends on what is taken out without it. -/
theorem map_fst_update {first second : Except SnapshotError ((σ → σ) × Entries Value)}
    (same : first.map Prod.fst = second.map Prod.fst) (update : σ → σ) :
    (first.map fun taken => (fun x => taken.1 (update x), taken.2)).map Prod.fst =
      (second.map fun taken => (fun x => taken.1 (update x), taken.2)).map Prod.fst := by
  have factor (result : Except SnapshotError ((σ → σ) × Entries Value)) :
      (result.map fun taken => (fun x => taken.1 (update x), taken.2)).map Prod.fst =
        (result.map Prod.fst).map fun assign x => assign (update x) := by
    cases result <;> rfl
  rw [factor, factor, same]

/-- If members may be trimmed before the fields are taken out, a state may be pruned. -/
theorem setState_lenient_of_take
    (trims : ∀ members, ((fields.take false type (fields.trim members)).value).map Prod.fst =
      ((fields.take false type members).value).map Prod.fst) (y : σ) (state : Value) :
    (fields.setState false type y (fields.pruned state)).value =
      (fields.setState false type y state).value := by
  cases state with
  | obj members =>
      rw [pruned, Value.onMembers, value_setState_lenient, value_setState_lenient, trims]
  | _ => rfl

/-- The lenient way takes the same out of members and out of what is managed of them. -/
theorem take_lenient (lawful : fields.Lawful) (type : String)
    (same : ∀ name ∈ fields.names,
      trimmed.find? name = (members.find? name).map (fields.prunedAt name)) :
    ((fields.take false type trimmed).value).map Prod.fst =
      ((fields.take false type members).value).map Prod.fst := by
  induction fields generalizing type members trimmed with
  | nil => rfl
  | plain name codec get set rest ih =>
      obtain ⟨-, -, fresh, others⟩ := lawful
      have here := same name (List.mem_cons_self ..)
      rw [prunedAt_plain_self, Option.map_id, id] at here
      have later := find?_erase_trimmed fresh (prunedAt_plain_later codec get set fresh) same
      rw [value_take_plain, value_take_plain, here]
      cases members.find? name with
      | none => rfl
      | some v =>
          cases decoded : codec.decode v with
          | none => simp only [decoded]
          | some a =>
              simp only [decoded]
              exact map_fst_update (ih others type later) (set a)
  | nested name innerType default inner get set rest ihInner ih =>
      obtain ⟨-, -, fresh, within, others⟩ := lawful
      have here := same name (List.mem_cons_self ..)
      rw [prunedAt_nested_self] at here
      have later :=
        find?_erase_trimmed fresh (prunedAt_nested_later default inner get set fresh) same
      rw [value_take_nested, value_take_nested, here]
      cases members.find? name with
      | none => rfl
      | some v =>
          have inside : (inner.setState false innerType default (inner.pruned v)).value =
              (inner.setState false innerType default v).value :=
            setState_lenient_of_take
              (fun _ => ihInner within innerType fun _ managed => find?_trim managed) default v
          simp only [Option.map_some, inside]
          rcases (inner.setState false innerType default v).value with ⟨a, e | _⟩
          · rfl
          · exact map_fst_update (ih others type later) (set a)

/-- Pruning a state makes no difference to the lenient way. -/
theorem setState_lenient (lawful : fields.Lawful) (type : String) (y : σ) (state : Value) :
    (fields.setState false type y (fields.pruned state)).value =
      (fields.setState false type y state).value :=
  setState_lenient_of_take (fun _ => take_lenient lawful type fun _ managed => find?_trim managed)
    y state

end Lenient

/-! ## The strict way -/

section Strict

variable {reject : Bool} {type name : String} {members : Entries Value}
  {fields rest : ManagedFields σ} {state : Value} {taken : (σ → σ) × Entries Value}

theorem map_eq_ok_iff {α β : Type} {f : α → β} {result : Except SnapshotError α} {b : β} :
    result.map f = .ok b ↔ ∃ a, result = .ok a ∧ f a = b := by
  cases result <;> simp [Except.map]

/-- If the two ways to take the fields out differ on members that are to be trimmed only, then the
two ways to restore a state differ on those that are to be pruned only. -/
theorem setState_strict_of_take (lawful : fields.Lawful) (type : String)
    (strict : ∀ members, (∀ entry ∈ members, entry.2.Valid) → ∀ taken,
      (fields.take true type members).value = .ok taken ↔
        (fields.take false type members).value = .ok taken ∧ fields.Trimmed members)
    (valid : state.Valid) (y z : σ) :
    (fields.setState true type y state).value = (z, .ok ()) ↔
      (fields.setState false type y state).value = (z, .ok ()) ∧ state = fields.pruned state := by
  cases state with
  | obj members =>
      rw [Value.Valid, Value.validMembers_iff] at valid
      obtain ⟨ascending, values⟩ := valid
      rw [eq_pruned_iff ascending, value_setState_obj, setState_lenient_ok_iff]
      have outcome := take_taken lawful false type members
      constructor
      · intro accepted
        cases strictly : (fields.take true type members).value with
        | error e =>
            rw [strictly] at accepted
            cases accepted
        | ok taken =>
            obtain ⟨leniently, trimmed⟩ := (strict members values taken).1 strictly
            rw [leniently] at outcome
            rw [strictly] at accepted
            cases outcome with
            | @taken assign right filled =>
                cases none : fields.unmanaged members with
                | nil =>
                    rw [none] at accepted leniently
                    cases accepted
                    exact ⟨⟨_, leniently, rfl⟩, rfl, trimmed⟩
                | cons entry rest =>
                    rw [none] at accepted
                    cases accepted
      · rintro ⟨⟨taken, leniently, rfl⟩, none, trimmed⟩
        have strictly := (strict members values taken).2 ⟨leniently, trimmed⟩
        rw [leniently] at outcome
        cases outcome with
        | @taken assign right filled =>
            rw [strictly, none]
            rfl
  | _ => exact iff_of_false nofun fun both => by cases both.1

theorem take_plain_eq_ok_iff {α : Type} {codec : Codec α} {get : σ → α} {set : α → σ → σ} :
    ((plain name codec get set rest).take reject type members).value = .ok taken ↔
      ∃ v a more, members.find? name = some v ∧ codec.decode v = some a ∧
        (rest.take reject type (members.erase name)).value = .ok more ∧
        (fun x => more.1 (set a x), more.2) = taken := by
  rw [value_take_plain]
  cases members.find? name with
  | none => simp
  | some v => cases decoded : codec.decode v <;> simp [decoded, map_eq_ok_iff]

theorem take_nested_eq_ok_iff {τ : Type} {innerType : String} {default : τ}
    {inner : ManagedFields τ} {get : σ → τ} {set : τ → σ → σ} :
    ((nested name innerType default inner get set rest).take reject type members).value =
        .ok taken ↔
      ∃ v a more, members.find? name = some v ∧
        (inner.setState reject innerType default v).value = (a, .ok ()) ∧
        (rest.take reject type (members.erase name)).value = .ok more ∧
        (fun x => more.1 (set a x), more.2) = taken := by
  rw [value_take_nested]
  cases members.find? name with
  | none => simp
  | some v =>
      rcases made : (inner.setState reject innerType default v).value with ⟨a, e | _⟩
      · simp [made]
      · simp [made, map_eq_ok_iff]

/-- The strict way takes the fields out just if the lenient way does and no value of theirs has to
be pruned, and then takes the same out. -/
theorem take_strict_iff (lawful : fields.Lawful) (type : String)
    (valid : ∀ entry ∈ members, entry.2.Valid) (taken : (σ → σ) × Entries Value) :
    (fields.take true type members).value = .ok taken ↔
      (fields.take false type members).value = .ok taken ∧ fields.Trimmed members := by
  induction fields generalizing type members with
  | nil => exact ⟨fun ran => ⟨ran, nofun⟩, And.left⟩
  | plain name codec get set rest ih =>
      obtain ⟨-, -, fresh, others⟩ := lawful
      have kept : ∀ entry ∈ members.erase name, entry.2.Valid :=
        fun entry member => valid entry (List.mem_filter.1 member).1
      rw [take_plain_eq_ok_iff, take_plain_eq_ok_iff,
        trimmed_cons_iff rfl fresh (prunedAt_plain_later codec get set fresh)]
      simp only [ih others type kept]
      constructor
      · rintro ⟨v, a, more, found, decoded, ⟨left, trimmed⟩, rfl⟩
        refine ⟨⟨v, a, more, found, decoded, left, rfl⟩, fun w _ => ?_, trimmed⟩
        rw [prunedAt_plain_self, id]
      · rintro ⟨⟨v, a, more, found, decoded, left, rfl⟩, -, trimmed⟩
        exact ⟨v, a, more, found, decoded, ⟨left, trimmed⟩, rfl⟩
  | nested name innerType default inner get set rest ihInner ih =>
      obtain ⟨-, -, fresh, within, others⟩ := lawful
      have kept : ∀ entry ∈ members.erase name, entry.2.Valid :=
        fun entry member => valid entry (List.mem_filter.1 member).1
      have inside {v : Value} (found : members.find? name = some v) (a : _) :
          (inner.setState true innerType default v).value = (a, .ok ()) ↔
            (inner.setState false innerType default v).value = (a, .ok ()) ∧
              v = inner.pruned v :=
        setState_strict_of_take within innerType
          (fun _ values taken => ihInner within innerType values taken)
          (valid _ (Entries.mem_of_find? found)) default a
      rw [take_nested_eq_ok_iff, take_nested_eq_ok_iff,
        trimmed_cons_iff rfl fresh (prunedAt_nested_later default inner get set fresh),
        prunedAt_nested_self]
      simp only [ih others type kept]
      constructor
      · rintro ⟨v, a, more, found, made, ⟨left, trimmed⟩, rfl⟩
        obtain ⟨leniently, same⟩ := (inside found a).1 made
        refine ⟨⟨v, a, more, found, leniently, left, rfl⟩, fun w again => ?_, trimmed⟩
        cases found.symm.trans again
        exact same.symm
      · rintro ⟨⟨v, a, more, found, leniently, left, rfl⟩, whole, trimmed⟩
        have same : v = inner.pruned v := (whole v found).symm
        exact ⟨v, a, more, found, (inside found a).2 ⟨leniently, same⟩, ⟨left, trimmed⟩, rfl⟩

/-- The strict way accepts the states that the lenient way accepts and that are pruned, and makes
the same of them. -/
theorem setState_strict_iff (lawful : fields.Lawful) (type : String) (valid : state.Valid)
    (y z : σ) :
    (fields.setState true type y state).value = (z, .ok ()) ↔
      (fields.setState false type y state).value = (z, .ok ()) ∧ state = fields.pruned state :=
  setState_strict_of_take lawful type (fun _ values => take_strict_iff lawful type values) valid
    y z

end Strict

/-! ## Plain fields -/

/-- Fields that are filled have been read, on all levels. -/
theorem Filled.reads {fields : ManagedFields σ} (lawful : fields.Lawful) {reject : Bool}
    {members : Entries Value} {z : σ} (filled : fields.Filled reject members z) :
    fields.Reads (.obj members) z := by
  induction fields generalizing members with
  | nil => trivial
  | plain name codec get set rest ih => exact ⟨filled.1, ih lawful.2.2.2 filled.2⟩
  | nested name innerType default inner get set rest ihInner ih =>
      obtain ⟨-, -, -, within, others⟩ := lawful
      obtain ⟨⟨v, found, made⟩, filled⟩ := filled
      refine ⟨⟨v, found, ?_⟩, ih others filled⟩
      have judged := setState_judged within reject innerType default v
      replace made : (inner.setState reject innerType default v).value = (get z, .ok ()) :=
        ManagedType.fromState_eq_ok_iff.1 made
      rw [made] at judged
      cases judged with
      | accepted object _ inside =>
          rw [object]
          exact ihInner within inside

end ManagedFields

namespace ManagedType

variable {σ : Type}

/-- Strict restoring refuses more states but makes nothing else of those it accepts.  Without
rejection, a state gives what it gives without all that is not managed, on any level: the same value
or the same error.  With rejection, it is accepted if and only if it is accepted without and there
is nothing in it that is not managed, and then the same comes of it.  Neither way is concerned with
what is inside the value of a plain field: pruning leaves it alone, and it is read as a whole. -/
theorem strict_refuses_only {type : ManagedType σ} (lawful : type.fields.Lawful) (y : σ)
    {state : Value} (valid : state.Valid) :
    (type.setState false y state).value = (type.setState false y (type.fields.pruned state)).value ∧
    (∀ z, (type.setState true y state).value = (z, .ok ()) ↔
      (type.setState false y state).value = (z, .ok ()) ∧ state = type.fields.pruned state) ∧
    type.fields.KeepsPlain state (type.fields.pruned state) ∧
    ∀ reject z, (type.setState reject y state).value = (z, .ok ()) → type.fields.Reads state z := by
  refine ⟨?_, ?_, ManagedFields.keepsPlain_pruned lawful state, ?_⟩
  · exact (ManagedFields.setState_lenient lawful type.name y state).symm
  · exact ManagedFields.setState_strict_iff lawful type.name valid y
  · intro reject z accepted
    have judged := ManagedFields.setState_judged lawful reject type.name y state
    rw [setState] at accepted
    rw [accepted] at judged
    cases judged with
    | accepted object _ filled =>
        rw [object]
        exact filled.reads lawful

end ManagedType

namespace Samples

/-- A depot with notes of any kind and a gauge. -/
structure Depot where
  notes : Value := .null
  gauge : Gauge := {}

/-- The managed fields of a depot. -/
def Depot.managed : ManagedType Depot where
  name := "Depot"
  default := {}
  fields :=
    .plain "notes" .value Depot.notes (fun notes s => { s with notes }) <|
    .nested "gauge" Gauge.managed.name Gauge.managed.default Gauge.managed.fields
      Depot.gauge (fun gauge s => { s with gauge }) .nil

theorem Depot.lawful : Depot.managed.fields.Lawful :=
  ⟨fun _ _ => rfl, ⟨fun _ _ => rfl, trivial⟩, by decide, fun _ _ => rfl, trivial, by decide,
    ManagedFields.lawful_single fun _ _ => rfl, trivial⟩

/-- Of the three members named `drift` or `depth` that no field manages, the one in the notes is no
member too many.  The others are ignored together, or make the state refused. -/
theorem depot_refuses_only :
    let notes := Value.obj [("drift", .int 1)]
    let state := Value.obj [("depth", .int 3),
      ("gauge", .obj [("drift", .int 1), ("level", .int 5)]), ("notes", notes)]
    let clean := Value.obj [("gauge", .obj [("level", .int 5)]), ("notes", notes)]
    state.Valid ∧ Depot.managed.fields.pruned state = clean ∧
      (Depot.managed.setState false {} state).value = (⟨notes, ⟨5, [0]⟩⟩, .ok ()) ∧
      (Depot.managed.setState false {} clean).value = (⟨notes, ⟨5, [0]⟩⟩, .ok ()) ∧
      (∀ z, (Depot.managed.setState true {} state).value ≠ (z, .ok ())) ∧
      (Depot.managed.setState true {} clean).value = (⟨notes, ⟨5, [0]⟩⟩, .ok ()) := by
  intro notes state clean
  have valid : state.Valid := by
    simp only [state, notes, Value.Valid, Value.ValidMembers]
    decide
  have pruned : Depot.managed.fields.pruned state = clean := rfl
  obtain ⟨lenient, strict, -, -⟩ := ManagedType.strict_refuses_only Depot.lawful {} valid
  have restored : (Depot.managed.setState false {} state).value = (⟨notes, ⟨5, [0]⟩⟩, .ok ()) := rfl
  refine ⟨valid, pruned, restored, ?_, fun z accepted => ?_, rfl⟩
  · rw [← pruned, ← lenient, restored]
  · have same := ((strict z).1 accepted).2
    rw [pruned] at same
    simp [state, clean] at same

end Samples

end Dataflow
