import Dataflow.KeyMap

/-!
# More on maps keyed by names

Look-ups after every value was changed (`KeyMap.get?_mapNamed`, `KeyMap.get?_mapValues`), and the
way back from entries to maps: entries that are in name order already are kept as they are
(`Entries.ofList_eq_self`, `KeyMap.ofList_entries`).  The names of entries are those under which
something is found (`Entries.mem_names_iff`), and sorting keeps them (`Entries.mem_names_ofList`).
-/

namespace Dataflow

namespace Entries

variable {α : Type u} {β : Type v}

theorem find?_map (f : String → α → β) (name : String) (entries : Entries α) :
    Entries.find? name (entries.map fun entry => (entry.1, f entry.1 entry.2)) =
      (entries.find? name).map (f name) := by
  induction entries with
  | nil => rfl
  | cons head rest ih =>
      by_cases same : head.1 = name
      · simp [Entries.find?, same]
      · simp [Entries.find?, same, ih]

/-- An entry that comes after all others is put at the end. -/
theorem insert_of_forall_lt {name : String} (value : α) {entries : Entries α}
    (h : ∀ e ∈ entries, e.1 < name) : entries.insert name value = entries ++ [(name, value)] := by
  induction entries with
  | nil => rfl
  | cons head rest ih =>
      have before : head.1 < name := h head (List.mem_cons_self ..)
      have notAfter : ¬ name < head.1 := fun after =>
        String.lt_irrefl name (String.lt_trans after before)
      have different : head.1 ≠ name := fun eq => String.lt_irrefl name (eq ▸ before)
      rw [Entries.insert, if_neg notAfter, if_neg different,
        ih fun e he => h e (List.mem_cons_of_mem _ he), List.cons_append]

theorem foldl_insert_of_ascending {sorted entries : Entries α}
    (h : Ascending (sorted ++ entries)) :
    entries.foldl (fun sorted entry => Entries.insert entry.1 entry.2 sorted) sorted =
      sorted ++ entries := by
  induction entries generalizing sorted with
  | nil => rw [List.foldl_nil, List.append_nil]
  | cons head rest ih =>
      have above : ∀ e ∈ sorted, e.1 < head.1 := fun e he =>
        (List.pairwise_append.1 h).2.2 e he head (List.mem_cons_self ..)
      have shifted : sorted ++ head :: rest = sorted ++ [head] ++ rest := by simp
      rw [List.foldl_cons, insert_of_forall_lt head.2 above, ih (shifted ▸ h), ← shifted]

/-- Entries in name order are kept as they are. -/
theorem ofList_eq_self {entries : Entries α} (h : entries.Ascending) :
    Entries.ofList entries = entries :=
  foldl_insert_of_ascending h

theorem find?_eq_none_of_notMem {name : String} {entries : Entries α}
    (h : name ∉ entries.map Prod.fst) : entries.find? name = none := by
  induction entries with
  | nil => rfl
  | cons entry rest ih =>
      rw [List.map_cons, List.mem_cons, not_or] at h
      rw [find?, if_neg (Ne.symm h.1), ih h.2]

theorem find?_foldl_insert (name : String) {entries : Entries α}
    (h : (entries.map Prod.fst).Nodup) (sorted : Entries α) :
    (entries.foldl (fun sorted entry => sorted.insert entry.1 entry.2) sorted).find? name =
      (entries.find? name).or (sorted.find? name) := by
  induction entries generalizing sorted with
  | nil => rfl
  | cons entry rest ih =>
      obtain ⟨fresh, others⟩ := List.nodup_cons.1 h
      rw [List.foldl_cons, ih others, find?]
      by_cases here : entry.1 = name
      · rw [if_pos here, ← here, find?_eq_none_of_notMem fresh, find?_insert_self]
        rfl
      · rw [if_neg here, find?_insert_of_ne (Ne.symm here)]

/-- Sorting entries with different names finds the same under each name. -/
theorem find?_ofList {entries : Entries α} (h : (entries.map Prod.fst).Nodup) (name : String) :
    (ofList entries).find? name = entries.find? name := by
  rw [ofList, find?_foldl_insert name h]
  cases entries.find? name <;> rfl

theorem eq_nil_of_find? {entries : Entries α} (h : ∀ name, entries.find? name = none) :
    entries = [] := by
  cases entries with
  | nil => rfl
  | cons entry rest =>
      have found := h entry.1
      rw [find?, if_pos rfl] at found
      cases found

instance (entries : Entries α) : Decidable entries.Ascending :=
  inferInstanceAs (Decidable (entries.Pairwise fun a b => a.1 < b.1))

/-- No two entries in name order have the same name. -/
theorem Ascending.nodup_names {entries : Entries α} (h : entries.Ascending) :
    (entries.map Prod.fst).Nodup := by
  refine List.pairwise_map.2 (List.Pairwise.imp ?_ h)
  intro first second below same
  exact String.lt_irrefl second.1 (same ▸ below)

theorem find?_of_mem {entries : Entries α} (distinct : (entries.map Prod.fst).Nodup)
    {entry : String × α} (h : entry ∈ entries) : entries.find? entry.1 = some entry.2 := by
  induction entries with
  | nil => cases h
  | cons head rest ih =>
      obtain ⟨fresh, others⟩ := List.nodup_cons.1 distinct
      rcases List.mem_cons.1 h with rfl | later
      · rw [find?, if_pos rfl]
      · have different : head.1 ≠ entry.1 := by
          intro same
          exact fresh (same ▸ List.mem_map_of_mem later)
        rw [find?, if_neg different, ih others later]

theorem mem_of_find? {name : String} {value : α} {entries : Entries α}
    (h : entries.find? name = some value) : (name, value) ∈ entries := by
  induction entries with
  | nil => cases h
  | cons head rest ih =>
      by_cases same : head.1 = name
      · rw [find?, if_pos same] at h
        cases h
        exact same ▸ List.mem_cons_self ..
      · rw [find?, if_neg same] at h
        exact List.mem_cons_of_mem _ (ih h)

/-- The names of entries are those under which something is found. -/
theorem mem_names_iff {name : String} {entries : Entries α} :
    name ∈ entries.map Prod.fst ↔ ∃ value, entries.find? name = some value := by
  constructor
  · intro member
    induction entries with
    | nil => cases member
    | cons head rest ih =>
        rw [find?]
        by_cases here : head.1 = name
        · exact ⟨head.2, if_pos here⟩
        · rw [if_neg here]
          rw [List.map_cons, List.mem_cons] at member
          exact ih (member.resolve_left (Ne.symm here))
  · rintro ⟨value, found⟩
    exact List.mem_map.2 ⟨(name, value), mem_of_find? found, rfl⟩

theorem mem_names_insert {name other : String} {value : α} {entries : Entries α} :
    name ∈ (entries.insert other value).map Prod.fst ↔
      name ∈ entries.map Prod.fst ∨ name = other := by
  rw [mem_names_iff, mem_names_iff]
  by_cases same : name = other
  · subst same
    simp
  · simp [find?_insert_of_ne same, same]

theorem mem_names_foldl_insert {name : String} {entries : List (String × α)} {sorted : Entries α} :
    name ∈ (entries.foldl (fun sorted entry => sorted.insert entry.1 entry.2) sorted).map Prod.fst ↔
      name ∈ sorted.map Prod.fst ∨ name ∈ entries.map Prod.fst := by
  induction entries generalizing sorted with
  | nil => simp
  | cons head rest ih =>
      rw [List.foldl_cons, ih, mem_names_insert, List.map_cons, List.mem_cons, or_assoc]

/-- Sorting entries keeps their names. -/
theorem mem_names_ofList {name : String} {entries : List (String × α)} :
    name ∈ (ofList entries).map Prod.fst ↔ name ∈ entries.map Prod.fst := by
  rw [ofList, mem_names_foldl_insert]
  simp

end Entries

namespace KeyMap

variable {α : Type u} {β : Type v}

/-- Applies a function to every name and its value. -/
def mapNamed (f : String → α → β) (map : KeyMap α) : KeyMap β where
  entries := map.entries.map fun entry => (entry.1, f entry.1 entry.2)
  ascending := by
    rw [Entries.Ascending, List.pairwise_map]
    exact map.ascending

@[simp] theorem get?_mapNamed (f : String → α → β) (map : KeyMap α) (name : String) :
    (map.mapNamed f).get? name = (map.get? name).map (f name) :=
  Entries.find?_map f name map.entries

@[simp] theorem get?_mapValues (f : α → β) (map : KeyMap α) (name : String) :
    (map.mapValues f).get? name = (map.get? name).map f :=
  Entries.find?_map (fun _ => f) name map.entries

theorem entries_foldl_insert (entries : List (String × α)) (map : KeyMap α) :
    (entries.foldl (fun map entry => map.insert entry.1 entry.2) map).entries =
      entries.foldl (fun sorted entry => Entries.insert entry.1 entry.2 sorted) map.entries := by
  induction entries generalizing map with
  | nil => rfl
  | cons head rest ih => rw [List.foldl_cons, List.foldl_cons, ih]; rfl

/-- What is found in a map was among the entries that were collected in it. -/
theorem mem_of_get?_foldl_insert {entries : List (String × α)} {map : KeyMap α} {name : String}
    {value : α}
    (h : (entries.foldl (fun map entry => map.insert entry.1 entry.2) map).get? name =
      some value) : (name, value) ∈ entries ∨ map.get? name = some value := by
  induction entries generalizing map with
  | nil => exact Or.inr h
  | cons head rest ih =>
      rcases ih h with member | before
      · exact Or.inl (List.mem_cons_of_mem _ member)
      · by_cases here : name = head.1
        · subst here
          rw [get?_insert_self] at before
          cases before
          exact Or.inl (List.mem_cons_self ..)
        · rw [get?_insert_of_ne _ here] at before
          exact Or.inr before

theorem mem_of_get?_ofList {entries : List (String × α)} {name : String} {value : α}
    (h : (ofList entries).get? name = some value) : (name, value) ∈ entries :=
  (mem_of_get?_foldl_insert h).resolve_right nofun

/-- Collecting the entries of a map gives the map back. -/
theorem ofList_entries (map : KeyMap α) : KeyMap.ofList map.entries = map := by
  have same : (KeyMap.ofList map.entries).entries = map.entries := by
    rw [KeyMap.ofList, entries_foldl_insert]
    exact Entries.ofList_eq_self map.ascending
  cases map
  cases h : KeyMap.ofList _
  rw [h] at same
  congr

theorem mem_keys_insert {map : KeyMap α} {name other : String} {value : α} :
    name ∈ (map.insert other value).keys ↔ name ∈ map.keys ∨ name = other :=
  Entries.mem_names_insert

end KeyMap

end Dataflow
