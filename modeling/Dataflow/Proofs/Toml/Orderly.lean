import Dataflow.Proofs.KeyMap
import Dataflow.Toml.Document

/-!
# Documents in order

Every table of a document that was read keeps its members by increasing names, so no name stands
in a table twice, and what a name stands for is a question of membership.

* `Toml.Node.Orderly`, `Toml.Table.Orderly` — trees all of whose tables are in order.
* `Toml.Table.Orderly.change?` — a change at the end of a path keeps the order of the whole tree;
  all that lines do to a document is made of such changes (`Table.orderly_extend?`).
* `Toml.ReadsInOrder`, `Toml.orderly_read` — values are read in order, by induction on the fuel of
  the three readers, which call each other with less.
* `Toml.orderly_parse?` — documents are in order.
-/

namespace Dataflow.Toml

/-! ## Trees in order -/

/-- The node holds no other ones. -/
def Node.IsScalar : Node → Prop
  | .arr _ | .table _ _ | .tables _ => False
  | _ => True

/-- In all tables of the node, however deep, the names increase. -/
inductive Node.Orderly : Node → Prop
  | scalar {node : Node} (scalar : node.IsScalar) : Orderly node
  | arr {items : List Node} (each : ∀ item ∈ items, Orderly item) : Orderly (.arr items)
  | table {origin : Origin} {members : List (String × Node)}
      (ascending : Entries.Ascending members) (each : ∀ member ∈ members, Orderly member.2) :
      Orderly (.table origin members)
  | tables {elements : List (List (String × Node))}
      (ascending : ∀ table ∈ elements, Entries.Ascending table)
      (each : ∀ table ∈ elements, ∀ member ∈ table, Orderly member.2) :
      Orderly (.tables elements)

namespace Table

/-- In a table and all tables in it the names increase. -/
structure Orderly (table : Table) : Prop where
  ascending : table.Ascending
  each : ∀ member ∈ table, Node.Orderly member.2

variable {table after : Table} {name : String} {node : Node} {origin : Origin}
  {elements : List Table}

theorem orderly_nil : Orderly [] where
  ascending := Entries.ascending_nil
  each _ member := by cases member

theorem orderly_of_node (h : Node.Orderly (.table origin table)) : table.Orderly := by
  cases h with
  | scalar scalar => exact scalar.elim
  | table ascending each => exact ⟨ascending, each⟩

theorem orderly_elements (h : Node.Orderly (.tables elements)) :
    ∀ table ∈ elements, Orderly table := by
  cases h with
  | scalar scalar => exact scalar.elim
  | tables ascending each =>
      exact fun table member => ⟨ascending table member, each table member⟩

theorem Orderly.asNode (h : table.Orderly) (origin : Origin) : Node.Orderly (.table origin table) :=
  .table h.ascending h.each

theorem orderly_tables (h : ∀ table ∈ elements, Orderly table) :
    Node.Orderly (.tables elements) :=
  .tables (fun table member => (h table member).ascending) fun table member =>
    (h table member).each

theorem Orderly.find? (h : table.Orderly) (found : table.find? name = some node) : node.Orderly :=
  h.each _ (Entries.mem_of_find? found)

theorem Orderly.insert (h : table.Orderly) (inner : node.Orderly) (name : String) :
    Orderly (Entries.insert name node table) where
  ascending := h.ascending.insert name node
  each member there := by
    rcases Entries.mem_insert there with rfl | before
    · exact inner
    · exact h.each member before

/-- No name stands in a table twice. -/
theorem Orderly.mem_iff (h : table.Orderly) : (name, node) ∈ table ↔ table.find? name = some node :=
  ⟨fun member => Entries.find?_of_mem h.ascending.nodup_names member, Entries.mem_of_find?⟩

/-! ## Changes -/

/-- The change, where it is possible, keeps tables in order. -/
def KeepsOrder (change : Table → Option Table) : Prop :=
  ∀ table after, change table = some after → table.Orderly → after.Orderly

theorem Orderly.change? {passes : Origin → Bool} {made : Origin}
    {change : Origin → Table → Option Table} (keeps : ∀ origin, KeepsOrder (change origin))
    (path : List String) (h : table.Orderly)
    (changed : Table.change? passes made change path origin table = some after) :
    after.Orderly := by
  induction path generalizing origin table after with
  | nil => exact keeps origin table after changed h
  | cons name path ih =>
      rw [Table.change?] at changed
      split at changed
      · obtain ⟨inner, deeper, rfl⟩ := Option.map_eq_some_iff.1 changed
        exact h.insert ((ih orderly_nil deeper).asNode made) name
      · rename_i origin inner found
        split at changed
        · obtain ⟨inner', deeper, rfl⟩ := Option.map_eq_some_iff.1 changed
          exact h.insert ((ih (orderly_of_node (h.find? found)) deeper).asNode origin) name
        · cases changed
      · rename_i elements found
        split at changed
        · cases changed
        · rename_i last ending
          have each := orderly_elements (h.find? found)
          have final : last ∈ elements := List.mem_of_getLast? ending
          obtain ⟨last', deeper, rfl⟩ := Option.map_eq_some_iff.1 changed
          refine h.insert (orderly_tables fun table member => ?_) name
          rcases List.mem_append.1 member with before | here
          · exact each table ((List.dropLast_sublist _).subset before)
          · rw [List.mem_singleton.1 here]
            exact ih (each last final) deeper
      · cases changed

theorem Orderly.add? (h : table.Orderly) (inner : node.Orderly)
    (added : Table.add? name node table = some after) : after.Orderly := by
  rw [Table.add?] at added
  split at added
  · cases added
    exact h.insert inner name
  · cases added

theorem Orderly.assign? {key : Key} (h : table.Orderly) (inner : node.Orderly)
    (assigned : Table.assign? key node table = some after) : after.Orderly := by
  rw [Table.assign?] at assigned
  split at assigned
  · exact h.add? inner assigned
  · refine h.change? (fun origin table after changed before => ?_) _ assigned
    split at changed
    · exact before.add? inner changed
    · cases changed

theorem Orderly.atHeader? {path : List String} {change : Table → Option Table}
    (h : table.Orderly) (keeps : KeepsOrder change)
    (changed : Table.atHeader? path change table = some after) : after.Orderly :=
  h.change? (fun _ => keeps) path changed

theorem Orderly.start? {key : Key} (h : table.Orderly)
    (started : Table.start? key table = some after) : after.Orderly := by
  refine h.atHeader? (fun table after changed before => ?_) started
  split at changed
  · cases changed
    exact before.insert (orderly_nil.asNode _) _
  · rename_i inner found
    cases changed
    exact before.insert ((orderly_of_node (before.find? found)).asNode _) _
  · cases changed

theorem Orderly.startElement? {key : Key} (h : table.Orderly)
    (started : Table.startElement? key table = some after) : after.Orderly := by
  refine h.atHeader? (fun table after changed before => ?_) started
  split at changed
  · cases changed
    refine before.insert (orderly_tables fun table member => ?_) _
    rw [List.mem_singleton.1 member]
    exact orderly_nil
  · rename_i elements found
    cases changed
    refine before.insert (orderly_tables fun table member => ?_) _
    rcases List.mem_append.1 member with old | new
    · exact orderly_elements (before.find? found) _ old
    · rw [List.mem_singleton.1 new]
      exact orderly_nil
  · cases changed

theorem orderly_foldlM {entries : List (Key × Node)} (each : ∀ entry ∈ entries, entry.2.Orderly)
    (h : table.Orderly)
    (made : entries.foldlM (fun table entry => table.assign? entry.1 entry.2) table =
      some after) : after.Orderly := by
  induction entries generalizing table with
  | nil =>
      cases made
      exact h
  | cons entry rest ih =>
      rw [List.foldlM_cons] at made
      obtain ⟨next, assigned, later⟩ := Option.bind_eq_some_iff.1 made
      refine ih (fun other member => each other (List.mem_cons_of_mem _ member)) ?_ later
      exact h.assign? (each entry (List.mem_cons_self ..)) assigned

theorem orderly_ofEntries? {entries : List (Key × Node)}
    (each : ∀ entry ∈ entries, entry.2.Orderly) (made : ofEntries? entries = some table) :
    table.Orderly :=
  orderly_foldlM each orderly_nil made

end Table

/-- What a line says is in order. -/
def Line.Orderly : Line → Prop
  | .entry _ node => node.Orderly
  | _ => True

namespace Table

theorem orderly_extend? {lines : List Line} {root document : Table} {current : List String}
    (each : ∀ line ∈ lines, line.Orderly) (h : root.Orderly)
    (extended : root.extend? current lines = some document) : document.Orderly := by
  induction lines generalizing root current with
  | nil =>
      cases extended
      exact h
  | cons line rest ih =>
      have later := fun other member => each other (List.mem_cons_of_mem line member)
      have first := each line (List.mem_cons_self ..)
      cases line with
      | header key =>
          obtain ⟨next, started, after⟩ := Option.bind_eq_some_iff.1 extended
          exact ih later (h.start? started) after
      | element key =>
          obtain ⟨next, started, after⟩ := Option.bind_eq_some_iff.1 extended
          exact ih later (h.startElement? started) after
      | entry key node =>
          obtain ⟨next, changed, after⟩ := Option.bind_eq_some_iff.1 extended
          refine ih later (h.atHeader? ?_ changed) after
          intro table after assigned before
          exact before.assign? first assigned

end Table

/-! ## Scalars -/

theorem isScalar_of_integer? {n : Int} {node : Node} (h : integer? n = some node) :
    node.IsScalar := by
  rw [integer?] at h
  split at h
  · cases h
    trivial
  · cases h

theorem isScalar_of_based? {base : Nat} {text rest : List Char} {node : Node}
    (h : based? base text = some (node, rest)) : node.IsScalar := by
  obtain ⟨_, _, found⟩ := Option.bind_eq_some_iff.1 h
  obtain ⟨_, integer, same⟩ := Option.map_eq_some_iff.1 found
  cases same
  exact isScalar_of_integer? integer

theorem isScalar_of_decimal? {negative : Bool} {text rest : List Char} {node : Node}
    (h : decimal? negative text = some (node, rest)) : node.IsScalar := by
  obtain ⟨_, _, h⟩ := Option.bind_eq_some_iff.1 h
  obtain ⟨_, _, h⟩ := Option.bind_eq_some_iff.1 h
  obtain ⟨_, _, h⟩ := Option.bind_eq_some_iff.1 h
  dsimp only at h
  split at h
  · obtain ⟨_, integer, same⟩ := Option.map_eq_some_iff.1 h
    cases same
    exact isScalar_of_integer? integer
  · split at h
    · cases h
    · cases h
      trivial

theorem isScalar_of_number? {text rest : List Char} {node : Node}
    (h : number? text = some (node, rest)) : node.IsScalar := by
  unfold number? at h
  split at h
  · exact isScalar_of_based? h
  · exact isScalar_of_based? h
  · exact isScalar_of_based? h
  · dsimp only at h
    split at h
    · cases h
      trivial
    · cases h
      trivial
    · exact isScalar_of_decimal? h

/-- A reader of words or strings that makes the same kind of node of all that it reads. -/
theorem isScalar_of_map {α : Type} {found : Option α} {make : α → Node × List Char} {node : Node}
    {rest : List Char} (h : found.map make = some (node, rest))
    (scalar : ∀ a, (make a).1.IsScalar) : node.IsScalar := by
  obtain ⟨a, -, same⟩ := Option.map_eq_some_iff.1 h
  rw [← show (make a).1 = node from congrArg Prod.fst same]
  exact scalar a

theorem isScalar_of_scalar? {text rest : List Char} {node : Node}
    (h : scalar? text = some (node, rest)) : node.IsScalar := by
  unfold scalar? at h
  split at h
  · exact isScalar_of_map h fun _ => trivial
  · exact isScalar_of_map h fun _ => trivial
  · exact isScalar_of_map h fun _ => trivial
  · exact isScalar_of_map h fun _ => trivial
  · split at h
    · cases h
      trivial
    · exact isScalar_of_number? h

/-! ## Readers -/

/-- What the three readers of values, items and members answer with this much fuel is in order. -/
structure ReadsInOrder (fuel : Nat) : Prop where
  value : ∀ {depth text node rest}, value? fuel depth text = some (node, rest) → node.Orderly
  items : ∀ {depth text items rest}, items? fuel depth text = some (items, rest) →
    ∀ item ∈ items, item.Orderly
  members : ∀ {depth text entries rest}, members? fuel depth text = some (entries, rest) →
    ∀ entry ∈ entries, entry.2.Orderly

theorem ReadsInOrder.value_succ {fuel depth : Nat} {text rest : List Char} {node : Node}
    (less : ReadsInOrder fuel) (read : value? (fuel + 1) depth text = some (node, rest)) :
    node.Orderly := by
  unfold value? at read
  split at read
  · cases read
  · obtain ⟨_, inner, same⟩ := Option.map_eq_some_iff.1 read
    cases same
    exact .arr (less.items inner)
  · cases read
  · split at read
    · cases read
      exact Table.orderly_nil.asNode _
    · obtain ⟨_, inner, found⟩ := Option.bind_eq_some_iff.1 read
      obtain ⟨_, made, same⟩ := Option.map_eq_some_iff.1 found
      cases same
      exact (Table.orderly_ofEntries? (less.members inner) made).asNode _
  · exact .scalar (isScalar_of_scalar? read)

theorem ReadsInOrder.items_succ {fuel depth : Nat} {text rest : List Char} {items : List Node}
    (less : ReadsInOrder fuel) (read : items? (fuel + 1) depth text = some (items, rest)) :
    ∀ item ∈ items, item.Orderly := by
  unfold items? at read
  split at read
  · cases read
    simp
  · split at read
    · cases read
    · rename_i value
      have first := less.value value
      split at read
      · obtain ⟨_, later, same⟩ := Option.map_eq_some_iff.1 read
        cases same
        exact List.forall_mem_cons.2 ⟨first, less.items later⟩
      · cases read
        exact List.forall_mem_singleton.2 first
      · cases read

theorem ReadsInOrder.members_succ {fuel depth : Nat} {text rest : List Char}
    {entries : List (Key × Node)} (less : ReadsInOrder fuel)
    (read : members? (fuel + 1) depth text = some (entries, rest)) :
    ∀ entry ∈ entries, entry.2.Orderly := by
  unfold members? at read
  split at read
  · split at read
    · cases read
    · rename_i value
      have first := less.value value
      split at read
      · obtain ⟨_, later, same⟩ := Option.map_eq_some_iff.1 read
        cases same
        exact List.forall_mem_cons.2 ⟨first, less.members later⟩
      · cases read
        exact List.forall_mem_singleton.2 first
      · cases read
  · cases read

theorem orderly_read (fuel : Nat) : ReadsInOrder fuel := by
  induction fuel with
  | zero =>
      exact
        { value := fun read => by cases read
          items := fun read => by cases read
          members := fun read => by cases read }
  | succ fuel less =>
      exact
        { value := less.value_succ
          items := less.items_succ
          members := less.members_succ }

/-! ## Documents -/

theorem orderly_line? {text rest : List Char} {line : Line}
    (read : line? text = some (line, rest)) : line.Orderly := by
  unfold line? at read
  obtain ⟨_, found, ended⟩ := Option.bind_eq_some_iff.1 read
  obtain ⟨_, _, same⟩ := Option.map_eq_some_iff.1 ended
  cases same
  split at found
  · split at found
    · cases found
      trivial
    · cases found
  · split at found
    · cases found
      trivial
    · cases found
  · split at found
    · obtain ⟨_, value, same⟩ := Option.map_eq_some_iff.1 found
      cases same
      exact (orderly_read _).value value
    · cases found

theorem orderly_lines? {fuel : Nat} {text : List Char} {lines : List Line}
    (read : lines? fuel text = some lines) : ∀ line ∈ lines, line.Orderly := by
  induction fuel generalizing text lines with
  | zero => cases read
  | succ fuel ih =>
      unfold lines? at read
      split at read
      · cases read
        simp
      · obtain ⟨_, first, read⟩ := Option.bind_eq_some_iff.1 read
        obtain ⟨_, later, rfl⟩ := Option.map_eq_some_iff.1 read
        exact List.forall_mem_cons.2 ⟨orderly_line? first, ih later⟩

theorem orderly_parse? {text : String} {document : Table} (read : parse? text = some document) :
    document.Orderly := by
  obtain ⟨_, lines, made⟩ := Option.bind_eq_some_iff.1 read
  exact Table.orderly_extend? (orderly_lines? lines) Table.orderly_nil made

end Dataflow.Toml
