import Dataflow.Proofs.Snapshot.Codec

/-!
# Restoring what was captured

Capturing the managed fields of one value and restoring them into another one of the same type
makes the two agree on all of them, whatever the other one held before.

* `ManagedFields.Lawful` — the fields have different names, and each can be read and set without
  touching the others.
* `ManagedFields.Agree` — two values have the same managed fields, those of nested values included.
* `ManagedFields.take_capture` — what a capture wrote is taken out again and nothing is left over.
* `ManagedFields.setState_state` — the round trip of a whole state.
-/

namespace Dataflow

namespace ManagedFields

variable {σ : Type}

/-! ## Laws of fields -/

/-- Setting any of the fields leaves what is read by `read` as it was. -/
def Leave {σ α : Type} (read : σ → α) : ManagedFields σ → Prop
  | nil => True
  | plain _ _ _ set rest => (∀ a x, read (set a x) = read x) ∧ Leave read rest
  | nested _ _ _ _ _ set rest => (∀ a x, read (set a x) = read x) ∧ Leave read rest

/-- The fields have different names, and each one reads what was set last. -/
def Lawful {σ : Type} : ManagedFields σ → Prop
  | nil => True
  | plain name _ get set rest =>
    (∀ a x, get (set a x) = a) ∧ Leave get rest ∧ name ∉ rest.names ∧ Lawful rest
  | nested name _ _ inner get set rest =>
    (∀ a x, get (set a x) = a) ∧ Leave get rest ∧ name ∉ rest.names ∧ Lawful inner ∧ Lawful rest

/-- Every plain field holds a value that its codec keeps. -/
def Keeps {σ : Type} : ManagedFields σ → σ → Prop
  | nil, _ => True
  | plain _ codec get _ rest, x => codec.Keeps (get x) ∧ Keeps rest x
  | nested _ _ _ inner get _ rest, x => Keeps inner (get x) ∧ Keeps rest x

/-- The managed fields hold the same. -/
def Agree {σ : Type} : ManagedFields σ → σ → σ → Prop
  | nil, _, _ => True
  | plain _ _ get _ rest, x, y => get x = get y ∧ Agree rest x y
  | nested _ _ _ inner get _ rest, x, y => Agree inner (get x) (get y) ∧ Agree rest x y

theorem lawful_single {α : Type} {name : String} {codec : Codec α} {get : σ → α}
    {set : α → σ → σ} (reads : ∀ a x, get (set a x) = a) :
    (plain name codec get set nil).Lawful :=
  ⟨reads, trivial, List.not_mem_nil, trivial⟩

theorem Agree.refl (fields : ManagedFields σ) (x : σ) : fields.Agree x x := by
  induction fields with
  | nil => trivial
  | plain _ _ _ _ _ ih => exact ⟨rfl, ih x⟩
  | nested _ _ _ _ _ _ _ inner rest => exact ⟨inner _, rest x⟩

theorem Agree.trans {fields : ManagedFields σ} {x y z : σ} (first : fields.Agree x y)
    (second : fields.Agree y z) : fields.Agree x z := by
  induction fields with
  | nil => trivial
  | plain _ _ _ _ _ ih => exact ⟨first.1.trans second.1, ih first.2 second.2⟩
  | nested _ _ _ _ _ _ _ inner rest =>
      exact ⟨inner first.1 second.1, rest first.2 second.2⟩

/-- Values that agree are captured alike. -/
theorem capture_congr {fields : ManagedFields σ} {x y : σ} (h : fields.Agree x y) :
    fields.capture x = fields.capture y := by
  induction fields with
  | nil => rfl
  | plain _ _ _ _ _ ih => rw [capture, capture, h.1, ih h.2]
  | nested _ _ _ _ _ _ _ inner rest => rw [capture, capture, inner h.1, rest h.2]

/-- A capture fails with the first field that is refused. -/
theorem capture_refused {α : Type} {name : String} {codec : Codec α} {get : σ → α}
    {set : α → σ → σ} {rest : ManagedFields σ} {x : σ} {e : SnapshotError}
    (h : encodeField name (codec.datum (get x)) = .error e) :
    (plain name codec get set rest).capture x = .error e := by
  rw [capture, h]

/-- A capture fails if it fails after the first field. -/
theorem exists_capture_error {α : Type} {name : String} {codec : Codec α} {get : σ → α}
    {set : α → σ → σ} {rest : ManagedFields σ} {x : σ} (h : ∃ e, rest.capture x = .error e) :
    ∃ e, (plain name codec get set rest).capture x = .error e := by
  obtain ⟨e, failed⟩ := h
  rw [capture]
  split
  · exact ⟨_, rfl⟩
  · rw [failed]
    exact ⟨e, rfl⟩

theorem Keeps.congr {fields : ManagedFields σ} {x y : σ} (kept : fields.Keeps x)
    (h : fields.Agree x y) : fields.Keeps y := by
  induction fields with
  | nil => trivial
  | plain _ _ _ _ _ ih => exact ⟨h.1 ▸ kept.1, ih kept.2 h.2⟩
  | nested _ _ _ _ _ _ _ inner rest => exact ⟨inner kept.1 h.1, rest kept.2 h.2⟩

theorem Lawful.nodup_names {fields : ManagedFields σ} (h : fields.Lawful) :
    fields.names.Nodup := by
  induction fields with
  | nil => exact List.nodup_nil
  | plain _ _ _ _ _ ih => exact List.nodup_cons.2 ⟨h.2.2.1, ih h.2.2.2⟩
  | nested _ _ _ _ _ _ _ _ ih => exact List.nodup_cons.2 ⟨h.2.2.1, ih h.2.2.2.2⟩

section Capture

variable {α : Type} {name : String} {get : σ → α} {set : α → σ → σ} {rest : ManagedFields σ} {x : σ}
  {members : List (String × Value)}

theorem capture_plain_ok {codec : Codec α}
    (h : (plain name codec get set rest).capture x = .ok members) :
    ∃ v others, (codec.datum (get x)).encode = .ok v ∧ rest.capture x = .ok others ∧
      members = (name, v) :: others := by
  rw [capture, encodeField] at h
  cases first : (codec.datum (get x)).encode with
  | error e => rw [first] at h; cases h
  | ok v =>
      cases later : rest.capture x with
      | error e => rw [first, later] at h; cases h
      | ok others =>
          rw [first, later] at h
          cases h
          exact ⟨v, others, rfl, rfl, rfl⟩

theorem capture_nested_ok {type : String} {default : α} {inner : ManagedFields α}
    (h : (nested name type default inner get set rest).capture x = .ok members) :
    ∃ innerMembers others, inner.capture (get x) = .ok innerMembers ∧
      rest.capture x = .ok others ∧ members = (name, .object innerMembers) :: others := by
  rw [capture] at h
  cases first : inner.capture (get x) with
  | error e => rw [first] at h; cases h
  | ok innerMembers =>
      cases later : rest.capture x with
      | error e => rw [first, later] at h; cases h
      | ok others =>
          rw [first, later] at h
          cases h
          exact ⟨innerMembers, others, rfl, rfl, rfl⟩

end Capture

theorem map_fst_capture {fields : ManagedFields σ} {x : σ} {members : List (String × Value)}
    (h : fields.capture x = .ok members) : members.map Prod.fst = fields.names := by
  induction fields generalizing members with
  | nil =>
      cases h
      rfl
  | plain name codec get _ rest ih =>
      obtain ⟨v, others, -, later, rfl⟩ := capture_plain_ok h
      rw [List.map_cons, ih later, names]
  | nested name _ _ inner get _ rest _ ih =>
      obtain ⟨innerMembers, others, -, later, rfl⟩ := capture_nested_ok h
      rw [List.map_cons, ih later, names]

theorem state_eq_ok_iff {fields : ManagedFields σ} {x : σ} {s : Value} :
    fields.state x = .ok s ↔ ∃ members, fields.capture x = .ok members ∧ s = .object members := by
  rw [state]
  cases fields.capture x with
  | error e => simp [Except.map]
  | ok members => simp [Except.map, eq_comm]

/-! ## The round trip -/

/-- Nothing is left over. -/
theorem value_finish_nil (reject : Bool) (type : String) :
    (finish reject type []).value = .ok () := rfl

/-- What remains of entries when the first member has been taken out. -/
theorem find?_erase_head {name : String} {v : Value} {rest entries : Entries Value}
    (fresh : name ∉ rest.map Prod.fst)
    (h : ∀ key, entries.find? key = Entries.find? key ((name, v) :: rest)) (key : String) :
    (entries.erase name).find? key = rest.find? key := by
  by_cases here : key = name
  · rw [here, Entries.find?_erase_self, Entries.find?_eq_none_of_notMem fresh]
  · rw [Entries.find?_erase_of_ne here, h, Entries.find?, if_neg (Ne.symm here)]

/-- Taking the fields out of the entries leaves nothing over.  The assignment makes its target agree
with `x`, and leaves alone what the fields leave alone. -/
def Restores (fields : ManagedFields σ) (x : σ) (reject : Bool) (type : String)
    (entries : Entries Value) : Prop :=
  ∃ assign, (fields.take reject type entries).value = .ok (assign, []) ∧
    ∀ y, fields.Agree x (assign y) ∧
      ∀ {α : Type} (read : σ → α), fields.Leave read → read (assign y) = read y

section Restores

variable {α τ : Type} {x : σ} {reject : Bool} {type name : String} {entries : Entries Value}
  {rest : ManagedFields σ}

theorem Restores.plain {codec : Codec α} {get : σ → α} {set : α → σ → σ} {v : Value}
    (later : rest.Restores x reject type (entries.erase name)) (apart : rest.Leave get)
    (reads : ∀ a x, get (set a x) = a) (found : entries.find? name = some v)
    (decoded : codec.decode v = some (get x)) :
    (plain name codec get set rest).Restores x reject type entries := by
  obtain ⟨assign, ran, agrees⟩ := later
  refine ⟨fun y => assign (set (get x) y), ?_, fun y => ⟨⟨?_, (agrees _).1⟩, ?_⟩⟩
  · simp only [take, found, decoded, Logged.value_bind, ran]
    rfl
  · rw [(agrees _).2 get apart, reads]
  · intro α read leave
    rw [(agrees _).2 read leave.2, leave.1]

theorem Restores.nested {innerType : String} {default : τ} {inner : ManagedFields τ} {get : σ → τ}
    {set : τ → σ → σ} {members : Entries Value}
    (later : rest.Restores x reject type (entries.erase name)) (apart : rest.Leave get)
    (reads : ∀ a x, get (set a x) = a) (found : entries.find? name = some (.obj members))
    (within : inner.Restores (get x) reject innerType members) :
    (nested name innerType default inner get set rest).Restores x reject type entries := by
  obtain ⟨fill, filled, fills⟩ := within
  obtain ⟨assign, ran, agrees⟩ := later
  refine ⟨fun y => assign (set (fill default) y), ?_, fun y => ⟨⟨?_, (agrees _).1⟩, ?_⟩⟩
  · simp only [take, found, Logged.value_bind, filled, value_finish_nil, ran]
    rfl
  · rw [(agrees _).2 get apart, reads]
    exact (fills default).1
  · intro α read leave
    rw [(agrees _).2 read leave.2, leave.1]

end Restores

/-- What a capture wrote can be restored from any entries that hold it and nothing else. -/
theorem take_capture {fields : ManagedFields σ} (lawful : fields.Lawful) {x : σ}
    (kept : fields.Keeps x) :
    ∃ members, fields.capture x = .ok members ∧
      ∀ (reject : Bool) (type : String) (entries : Entries Value),
        (∀ name, entries.find? name = Entries.find? name members) →
        fields.Restores x reject type entries := by
  induction fields with
  | nil =>
      refine ⟨[], rfl, fun reject type entries h => ⟨id, ?_, fun y => ⟨trivial, fun _ _ => rfl⟩⟩⟩
      rw [Entries.eq_nil_of_find? h]
      rfl
  | plain name codec get set rest ih =>
      obtain ⟨reads, apart, fresh, others⟩ := lawful
      obtain ⟨⟨v, keeps⟩, keptRest⟩ := kept
      obtain ⟨members, captured, taken⟩ := ih others keptRest
      refine ⟨(name, v) :: members, ?_, fun reject type entries h => ?_⟩
      · simp only [capture, encodeField, keeps.encode, captured]
        rfl
      · have found : entries.find? name = some v := by rw [h, Entries.find?, if_pos rfl]
        rw [← map_fst_capture captured] at fresh
        exact (taken reject type _ (find?_erase_head fresh h)).plain apart reads found keeps.decoded
  | nested name innerType default inner get set rest ihInner ih =>
      obtain ⟨reads, apart, fresh, within, others⟩ := lawful
      obtain ⟨innerMembers, innerCaptured, innerTaken⟩ := ihInner within kept.1
      obtain ⟨members, captured, taken⟩ := ih others kept.2
      refine ⟨(name, .object innerMembers) :: members, ?_, fun reject type entries h => ?_⟩
      · simp only [capture, innerCaptured, captured]
        rfl
      · have found : entries.find? name = some (.obj (Entries.ofList innerMembers)) := by
          rw [h, Entries.find?, if_pos rfl]
          rfl
        have distinct : (innerMembers.map Prod.fst).Nodup := by
          rw [map_fst_capture innerCaptured]
          exact within.nodup_names
        rw [← map_fst_capture captured] at fresh
        exact (taken reject type _ (find?_erase_head fresh h)).nested apart reads found
          (innerTaken reject innerType _ (Entries.find?_ofList distinct))

/-- Restoring a captured state succeeds and makes the target agree with the captured value. -/
theorem setState_state {fields : ManagedFields σ} (lawful : fields.Lawful) {x : σ}
    (kept : fields.Keeps x) :
    ∃ state, fields.state x = .ok state ∧ ∀ (reject : Bool) (type : String) (y : σ),
      ∃ z, (fields.setState reject type y state).value = (z, .ok ()) ∧ fields.Agree x z := by
  obtain ⟨members, captured, taken⟩ := take_capture lawful kept
  refine ⟨.object members, ?_, fun reject type y => ?_⟩
  · rw [state, captured]
    rfl
  · have distinct : (members.map Prod.fst).Nodup := by
      rw [map_fst_capture captured]
      exact lawful.nodup_names
    obtain ⟨assign, ran, agrees⟩ := taken reject type _ (Entries.find?_ofList distinct)
    refine ⟨assign y, ?_, (agrees y).1⟩
    simp only [setState, Value.object, Logged.value_bind, ran, value_finish_nil]
    rfl

end ManagedFields

end Dataflow
