/-!
# Maps keyed by names

Ports, actors, variables and the members of an object are all found by name and shown in name
order.  `Entries` are plain lists of named values; `KeyMap` is such a list in strictly increasing
order of its names, so that two maps with the same look-ups are equal (`KeyMap.ext_get?`).
-/

namespace Dataflow

/-! ## Named entries -/

/-- Named values, in the order in which they are kept. -/
abbrev Entries (α : Type u) := List (String × α)

namespace Entries

variable {α : Type u} {β : Type v}

/-- The value of the first entry with this name. -/
def find? (name : String) : Entries α → Option α
  | [] => none
  | (key, value) :: rest => if key = name then some value else find? name rest

/-- Puts an entry at its place in name order, replacing one of the same name. -/
def insert (name : String) (value : α) : Entries α → Entries α
  | [] => [(name, value)]
  | (key, old) :: rest =>
    if name < key then (name, value) :: (key, old) :: rest
    else if key = name then (name, value) :: rest
    else (key, old) :: insert name value rest

/-- Removes every entry with this name. -/
def erase (name : String) (entries : Entries α) : Entries α :=
  entries.filter fun entry => entry.1 ≠ name

/-- Entries in name order; of several with one name the last one counts. -/
def ofList (entries : List (String × α)) : Entries α :=
  entries.foldl (fun sorted entry => sorted.insert entry.1 entry.2) []

/-- The names strictly increase. -/
def Ascending (entries : Entries α) : Prop :=
  entries.Pairwise fun a b => a.1 < b.1

theorem ascending_nil : Ascending ([] : Entries α) := List.Pairwise.nil

theorem mem_insert {name : String} {value : α} {entries : Entries α} {e : String × α}
    (h : e ∈ entries.insert name value) : e = (name, value) ∨ e ∈ entries := by
  induction entries with
  | nil => simpa [insert] using h
  | cons head rest ih =>
    obtain ⟨key, old⟩ := head
    unfold insert at h
    split at h
    · simpa using h
    · split at h
      · simp only [List.mem_cons] at h ⊢
        rcases h with h | h
        · exact Or.inl h
        · exact Or.inr (Or.inr h)
      · simp only [List.mem_cons] at h ⊢
        rcases h with h | h
        · exact Or.inr (Or.inl h)
        · rcases ih h with h | h
          · exact Or.inl h
          · exact Or.inr (Or.inr h)

theorem Ascending.insert {entries : Entries α} (h : entries.Ascending) (name : String)
    (value : α) : (entries.insert name value).Ascending := by
  induction entries with
  | nil => exact List.pairwise_singleton _ _
  | cons head rest ih =>
    obtain ⟨key, old⟩ := head
    obtain ⟨first, later⟩ := List.pairwise_cons.mp h
    unfold Entries.insert
    split
    · rename_i below
      refine List.pairwise_cons.mpr ⟨fun e he => ?_, h⟩
      rcases List.mem_cons.mp he with rfl | he
      · exact below
      · exact String.lt_trans below (first e he)
    · rename_i notBelow
      split
      · rename_i same
        subst same
        exact List.pairwise_cons.mpr ⟨first, later⟩
      · rename_i different
        refine List.pairwise_cons.mpr ⟨fun e he => ?_, ih later⟩
        rcases mem_insert he with rfl | he
        · exact String.not_le.mp fun le =>
            different (String.le_antisymm (String.not_lt.mp notBelow) le)
        · exact first e he

theorem Ascending.erase {entries : Entries α} (h : entries.Ascending) (name : String) :
    (entries.erase name).Ascending :=
  List.Pairwise.filter _ h

/-- Changing the values of entries leaves their names in order. -/
theorem Ascending.mapValues {entries : Entries α} (h : entries.Ascending) (f : α → β) :
    Ascending (entries.map fun entry => (entry.1, f entry.2)) :=
  List.pairwise_map.mpr h

@[simp] theorem find?_insert_self (name : String) (value : α) (entries : Entries α) :
    (entries.insert name value).find? name = some value := by
  induction entries with
  | nil => simp [insert, find?]
  | cons head rest ih =>
    obtain ⟨key, old⟩ := head
    unfold insert
    split
    · simp [find?]
    · split
      · simp [find?]
      · rename_i different
        simp [find?, different, ih]

@[simp] theorem find?_insert_of_ne {name other : String} (h : other ≠ name) (value : α)
    (entries : Entries α) : (entries.insert name value).find? other = entries.find? other := by
  induction entries with
  | nil => simp [insert, find?, Ne.symm h]
  | cons head rest ih =>
    obtain ⟨key, old⟩ := head
    unfold insert
    split
    · simp [find?, Ne.symm h]
    · split
      · rename_i same
        subst same
        simp [find?, Ne.symm h]
      · simp [find?, ih]

@[simp] theorem find?_erase_self (name : String) (entries : Entries α) :
    (entries.erase name).find? name = none := by
  induction entries with
  | nil => rfl
  | cons head rest ih =>
    unfold erase at ih ⊢
    by_cases same : head.1 = name
    · simpa [List.filter_cons, same] using ih
    · simpa [List.filter_cons, same, find?] using ih

@[simp] theorem find?_erase_of_ne {name other : String} (h : other ≠ name)
    (entries : Entries α) : (entries.erase name).find? other = entries.find? other := by
  induction entries with
  | nil => rfl
  | cons head rest ih =>
    unfold erase at ih ⊢
    by_cases same : head.1 = name
    · have other' : ¬ head.1 = other := fun eq => h (eq ▸ same)
      simpa [List.filter_cons, same, find?, other', ↓Ne.symm h] using ih
    · by_cases found : head.1 = other
      · simp [find?, found, h]
      · simpa [List.filter_cons, same, find?, found] using ih

theorem find?_eq_none_of_lt (entries : Entries α) (name : String)
    (h : ∀ e ∈ entries, name < e.1) : entries.find? name = none := by
  induction entries with
  | nil => rfl
  | cons head rest ih =>
    have different : ¬ head.1 = name := fun eq =>
      String.lt_irrefl name (eq ▸ h head (List.mem_cons_self ..))
    simpa [find?, different] using ih fun e he => h e (List.mem_cons_of_mem _ he)

/-- Entries in name order are determined by what is found under each name. -/
theorem Ascending.ext {first second : Entries α} (h₁ : first.Ascending) (h₂ : second.Ascending)
    (same : ∀ name, first.find? name = second.find? name) : first = second := by
  induction first generalizing second with
  | nil =>
    cases second with
    | nil => rfl
    | cons head rest => simpa [find?] using same head.1
  | cons head rest ih =>
    cases second with
    | nil => simpa [find?] using same head.1
    | cons head' rest' =>
      obtain ⟨above, sorted⟩ := List.pairwise_cons.mp h₁
      obtain ⟨above', sorted'⟩ := List.pairwise_cons.mp h₂
      have key : head.1 = head'.1 := by
        by_cases lt : head.1 < head'.1
        · have absent := find?_eq_none_of_lt (head' :: rest') head.1
            (by
              intro e he
              rcases List.mem_cons.mp he with rfl | he
              · exact lt
              · exact String.lt_trans lt (above' e he))
          have present := same head.1
          rw [absent] at present
          simp [find?] at present
        · by_cases eq : head.1 = head'.1
          · exact eq
          · have lt' : head'.1 < head.1 := String.not_le.mp fun le =>
              eq (String.le_antisymm le (String.not_lt.mp lt))
            have absent := find?_eq_none_of_lt (head :: rest) head'.1
              (by
                intro e he
                rcases List.mem_cons.mp he with rfl | he
                · exact lt'
                · exact String.lt_trans lt' (above e he))
            have present := same head'.1
            rw [absent] at present
            simp [find?] at present
      have value : head.2 = head'.2 := by
        simpa [find?, key] using same head.1
      have tails : rest = rest' := by
        refine ih sorted sorted' fun name => ?_
        by_cases hit : head.1 = name
        · rw [find?_eq_none_of_lt rest name (fun e he => hit ▸ above e he),
            find?_eq_none_of_lt rest' name (fun e he => hit ▸ key ▸ above' e he)]
        · have step := same name
          simpa [find?, hit, ← key] using step
      rw [Prod.ext key value, tails]

end Entries

/-! ## Maps -/

/-- A finite map from names to values, kept in increasing order of the names. -/
structure KeyMap (α : Type u) where
  /-- The entries, in name order. -/
  entries : Entries α
  /-- No name occurs twice, and the names increase. -/
  ascending : entries.Ascending

namespace KeyMap

variable {α : Type u} {β : Type v}

/-- The map without entries. -/
def empty : KeyMap α := ⟨[], Entries.ascending_nil⟩

instance : EmptyCollection (KeyMap α) := ⟨empty⟩

instance : Inhabited (KeyMap α) := ⟨empty⟩

instance [DecidableEq α] : DecidableEq (KeyMap α) := fun a b =>
  decidable_of_iff (a.entries = b.entries)
    ⟨fun h => by cases a; cases b; congr, fun h => h ▸ rfl⟩

/-- The value kept under a name. -/
def get? (map : KeyMap α) (name : String) : Option α := map.entries.find? name

/-- Whether something is kept under a name. -/
def contains (map : KeyMap α) (name : String) : Bool := (map.get? name).isSome

/-- Keeps a value under a name, replacing what was there. -/
def insert (map : KeyMap α) (name : String) (value : α) : KeyMap α :=
  ⟨map.entries.insert name value, map.ascending.insert name value⟩

/-- Forgets a name. -/
def erase (map : KeyMap α) (name : String) : KeyMap α :=
  ⟨map.entries.erase name, map.ascending.erase name⟩

/-- Applies a function to every value. -/
def mapValues (f : α → β) (map : KeyMap α) : KeyMap β :=
  ⟨map.entries.map fun entry => (entry.1, f entry.2), map.ascending.mapValues f⟩

/-- Collects entries; of several with one name the last one counts. -/
def ofList (entries : List (String × α)) : KeyMap α :=
  entries.foldl (fun map entry => map.insert entry.1 entry.2) empty

/-- The names, in order. -/
def keys (map : KeyMap α) : List String := map.entries.map Prod.fst

/-- The values, in the order of their names. -/
def values (map : KeyMap α) : List α := map.entries.map Prod.snd

@[simp] theorem get?_empty (name : String) : (empty : KeyMap α).get? name = none := rfl

@[simp] theorem get?_insert_self (map : KeyMap α) (name : String) (value : α) :
    (map.insert name value).get? name = some value :=
  Entries.find?_insert_self ..

@[simp] theorem get?_insert_of_ne (map : KeyMap α) {name other : String} (h : other ≠ name)
    (value : α) : (map.insert name value).get? other = map.get? other :=
  Entries.find?_insert_of_ne h ..

@[simp] theorem get?_erase_self (map : KeyMap α) (name : String) :
    (map.erase name).get? name = none :=
  Entries.find?_erase_self ..

@[simp] theorem get?_erase_of_ne (map : KeyMap α) {name other : String} (h : other ≠ name) :
    (map.erase name).get? other = map.get? other :=
  Entries.find?_erase_of_ne h ..

/-- Maps that find the same under every name are equal. -/
theorem ext_get? {first second : KeyMap α} (h : ∀ name, first.get? name = second.get? name) :
    first = second := by
  have same := Entries.Ascending.ext first.ascending second.ascending h
  cases first
  cases second
  congr

end KeyMap

end Dataflow
