import Dataflow.Capability.Context
import Mathlib.Data.List.Nodup
import Mathlib.Data.List.Sort
import Mathlib.Order.RelIso.Basic

/-!
# The table of an actor's capabilities

What each operation on a context comes to, in terms of the entries of its table.

* `Handle.precedes_iff` — the order in which the entries stand.
* `HandleTable.Numbered` — the entries are in order, and their handles bear different numbers, all
  of which were given out.  Every operation keeps this (`Context.numbered_perform`).
* `HandleTable.Numbered.extend_perm` — opening adds one entry.
* `HandleTable.handles_perm`, `HandleTable.handles_pairwise` — the open handles are those of the
  entries, listed by number.
* `Context.Opened` — the outcomes of opening a capability.
* `Context.Reaches`, `Context.Dead` — what a handle does that is open, and one that is not.
* `Context.value_closeAll` — closing everything closes each open capability once, in order.
-/

namespace Dataflow

/-! ## The order of handles -/

namespace Handle

variable {a b c : Handle}

theorem precedes_iff : a.precedes b = true ↔ a.name < b.name ∨ a.name = b.name ∧ a.id < b.id := by
  simp [precedes]

theorem precedes_trans (first : a.precedes b = true) (second : b.precedes c = true) :
    a.precedes c = true := by
  rw [precedes_iff] at first second ⊢
  rcases first with less | ⟨same, less⟩
  · rcases second with less' | ⟨same', -⟩
    · exact Or.inl (String.lt_trans less less')
    · exact Or.inl (same' ▸ less)
  · rcases second with less' | ⟨same', less'⟩
    · exact Or.inl (same ▸ less')
    · exact Or.inr ⟨same.trans same', Nat.lt_trans less less'⟩

/-- Of two different handles, one comes before the other. -/
theorem precedes_of_not (later : ¬a.precedes b = true) (different : b ≠ a) :
    b.precedes a = true := by
  rw [precedes_iff, not_or, not_and] at later
  rw [precedes_iff]
  by_cases less : b.name < a.name
  · exact Or.inl less
  · have same : b.name = a.name :=
      String.le_antisymm (String.not_lt.1 later.1) (String.not_lt.1 less)
    refine Or.inr ⟨same, Nat.lt_of_le_of_ne (Nat.not_lt.1 (later.2 same.symm)) fun equal => ?_⟩
    exact different (by cases a; cases b; simp_all)

theorem insertByNumber_eq (handle : Handle) (handles : List Handle) :
    handle.insertByNumber handles = handles.orderedInsert (Order.Preimage id (· ≤ ·)) handle := by
  induction handles with
  | nil => rfl
  | cons other rest ih =>
      rw [insertByNumber, List.orderedInsert, ih]
      rfl

theorem sortByNumber_eq (handles : List Handle) :
    sortByNumber handles = handles.insertionSort (Order.Preimage id (· ≤ ·)) := by
  induction handles with
  | nil => rfl
  | cons handle rest ih => exact (congrArg _ ih).trans (insertByNumber_eq handle _)

end Handle

namespace HandleTable

variable {W : Type} {table : HandleTable W} {handle : Handle} {capability : Capability W}
  {entries : List (Handle × Capability W)}

/-! ## Entries -/

theorem mem_place {entry : Handle × Capability W}
    (member : entry ∈ place handle capability entries) :
    entry = (handle, capability) ∨ entry ∈ entries := by
  induction entries with
  | nil => exact Or.inl (List.mem_singleton.1 member)
  | cons head rest ih =>
      rw [place] at member
      split at member
      · exact List.mem_cons.1 member
      · split at member
        · exact (List.mem_cons.1 member).imp_right (List.mem_cons_of_mem _)
        · rcases List.mem_cons.1 member with rfl | later
          · exact Or.inr (List.mem_cons_self ..)
          · exact (ih later).imp_right (List.mem_cons_of_mem _)

/-- An entry for a handle that there is none for comes in addition to the others. -/
theorem place_perm (fresh : handle ∉ entries.map Prod.fst) :
    (place handle capability entries).Perm ((handle, capability) :: entries) := by
  induction entries with
  | nil => exact .refl _
  | cons head rest ih =>
      rw [List.map_cons, List.mem_cons, not_or] at fresh
      rw [place]
      split
      · exact .refl _
      · rw [if_neg fun same => fresh.1 same.symm]
        exact ((ih fresh.2).cons head).trans (.swap ..)

theorem place_pairwise (ordered : entries.Pairwise fun a b => a.1.precedes b.1 = true) :
    (place handle capability entries).Pairwise fun a b => a.1.precedes b.1 = true := by
  induction entries with
  | nil => exact List.pairwise_singleton _ _
  | cons head rest ih =>
      obtain ⟨before, others⟩ := List.pairwise_cons.1 ordered
      rw [place]
      split
      next first =>
        refine List.pairwise_cons.2 ⟨fun entry member => ?_, ordered⟩
        rcases List.mem_cons.1 member with rfl | later
        · exact first
        · exact Handle.precedes_trans first (before entry later)
      next notFirst =>
        split
        next same => exact List.pairwise_cons.2 ⟨same ▸ before, others⟩
        next different =>
          refine List.pairwise_cons.2 ⟨fun entry member => ?_, ih others⟩
          rcases mem_place member with rfl | later
          · exact Handle.precedes_of_not notFirst different
          · exact before entry later

/-- The entries are in the order of their handles, and these bear different numbers, all of which
were given out. -/
structure Numbered (table : HandleTable W) : Prop where
  ordered : table.opened.Pairwise fun a b => a.1.precedes b.1 = true
  distinct : (table.opened.map fun entry => entry.1.id).Nodup
  below : ∀ entry ∈ table.opened, entry.1.id < table.nextId

/-- The table with one more entry, under the next number. -/
def extend (table : HandleTable W) (name : String) (capability : Capability W) : HandleTable W :=
  { table with
    opened := place ⟨name, table.nextId⟩ capability table.opened
    nextId := table.nextId + 1 }

/-- The table without a handle. -/
def without (table : HandleTable W) (handle : Handle) : HandleTable W :=
  { table with opened := table.opened.filter fun entry => entry.1 ≠ handle }

/-- The table without any handle. -/
def emptied (table : HandleTable W) : HandleTable W := { table with opened := [] }

theorem numbered_new (actor : ActorRef) : ({ actor } : HandleTable W).Numbered :=
  ⟨List.Pairwise.nil, List.nodup_nil, fun _ member => by cases member⟩

/-- Opening adds one entry. -/
theorem Numbered.extend_perm (h : table.Numbered) (name : String) (capability : Capability W) :
    (table.extend name capability).opened.Perm
      ((⟨name, table.nextId⟩, capability) :: table.opened) := by
  refine place_perm fun member => ?_
  obtain ⟨entry, there, same⟩ := List.mem_map.1 member
  have below := h.below entry there
  rw [same] at below
  exact Nat.lt_irrefl _ below

theorem Numbered.extend (h : table.Numbered) (name : String) (capability : Capability W) :
    (table.extend name capability).Numbered where
  ordered := place_pairwise h.ordered
  distinct := by
    rw [((h.extend_perm name capability).map _).nodup_iff, List.map_cons, List.nodup_cons]
    refine ⟨fun member => ?_, h.distinct⟩
    obtain ⟨entry, there, same⟩ := List.mem_map.1 member
    exact Nat.ne_of_lt (h.below entry there) same
  below entry member := by
    show entry.1.id < table.nextId + 1
    rcases mem_place member with rfl | old
    · exact Nat.lt_succ_self _
    · exact Nat.lt_succ_of_lt (h.below entry old)

theorem Numbered.without (h : table.Numbered) (handle : Handle) :
    (table.without handle).Numbered where
  ordered := h.ordered.filter _
  distinct := h.distinct.sublist (List.filter_sublist.map _)
  below entry member := h.below entry (List.mem_filter.1 member).1

theorem numbered_emptied (table : HandleTable W) : table.emptied.Numbered :=
  ⟨List.Pairwise.nil, List.nodup_nil, fun _ member => by cases member⟩

/-- The open handles are those of the entries. -/
theorem handles_perm (table : HandleTable W) :
    table.handles.Perm (table.opened.map Prod.fst) := by
  rw [handles, Handle.sortByNumber_eq]
  exact List.perm_insertionSort ..

theorem mem_handles : handle ∈ table.handles ↔ handle ∈ table.opened.map Prod.fst :=
  table.handles_perm.mem_iff

theorem handles_eq_nil_iff : table.handles = [] ↔ table.opened = [] := by
  rw [← List.length_eq_zero_iff, table.handles_perm.length_eq, List.length_map,
    List.length_eq_zero_iff]

/-- The open handles are listed by number. -/
theorem handles_pairwise (table : HandleTable W) :
    table.handles.Pairwise fun a b => a.id ≤ b.id := by
  rw [handles, Handle.sortByNumber_eq]
  exact List.pairwise_insertionSort (Order.Preimage Handle.id (· ≤ ·)) _

theorem mem_of_find? (found : table.find? handle = some capability) :
    (handle, capability) ∈ table.opened := by
  obtain ⟨entry, there, rfl⟩ := Option.map_eq_some_iff.1 found
  have same : entry.1 = handle := by simpa using List.find?_some there
  exact same ▸ List.mem_of_find?_eq_some there

theorem find?_eq_none_iff : table.find? handle = none ↔ handle ∉ table.handles := by
  rw [find?, Option.map_eq_none_iff, List.find?_eq_none, mem_handles, List.mem_map]
  constructor
  · rintro none ⟨entry, there, same⟩
    exact none entry there (by simpa using same)
  · intro absent entry there same
    exact absent ⟨entry, there, by simpa using same⟩

/-- Two entries with one number are the same entry. -/
theorem Numbered.eq_of_id (h : table.Numbered) {first second : Handle × Capability W}
    (one : first ∈ table.opened) (other : second ∈ table.opened)
    (same : first.1.id = second.1.id) : first = second :=
  List.inj_on_of_nodup_map h.distinct one other same

/-- A handle finds the capability of its entry. -/
theorem Numbered.find?_of_mem (h : table.Numbered) (there : (handle, capability) ∈ table.opened) :
    table.find? handle = some capability := by
  cases found : table.find? handle with
  | none => exact absurd (mem_handles.2 (List.mem_map_of_mem there)) (find?_eq_none_iff.1 found)
  | some other =>
      have same := h.eq_of_id (mem_of_find? found) there rfl
      exact congrArg (fun entry => some entry.2) same

/-- Taking a handle out of the table takes out one entry. -/
theorem Numbered.perm_without (h : table.Numbered) (there : (handle, capability) ∈ table.opened) :
    table.opened.Perm ((handle, capability) :: (table.without handle).opened) := by
  obtain ⟨before, after, split⟩ := List.append_of_mem there
  have apart := List.pairwise_map.1 h.distinct
  rw [split, List.pairwise_append, List.pairwise_cons] at apart
  obtain ⟨-, ⟨later, -⟩, earlier⟩ := apart
  have keptBefore : before.filter (fun entry => entry.1 ≠ handle) = before := by
    refine List.filter_eq_self.2 fun entry member => decide_eq_true fun same => ?_
    exact earlier entry member _ (List.mem_cons_self ..) (congrArg Handle.id same)
  have keptAfter : after.filter (fun entry => entry.1 ≠ handle) = after := by
    refine List.filter_eq_self.2 fun entry member => decide_eq_true fun same => ?_
    exact later entry member (congrArg Handle.id same.symm)
  have rest : (table.without handle).opened = before ++ after := by
    rw [HandleTable.without, split, List.filter_append, keptBefore,
      List.filter_cons_of_neg (by simp), keptAfter]
  rw [rest, split]
  exact List.perm_middle

end HandleTable

namespace Context

variable {W : Type} {context : Context W} {handle : Handle} {capability : Capability W}

/-! ## Opening -/

/-- The outcomes of opening a capability.  Only a success changes the table. -/
inductive Opened (context : Context W) (name : String) (config : Value) :
    Context W × Except CapabilityError Handle → Prop
  | unregistered : context.registry.factories.get? name = none →
      Opened context name config (context, .error (.notFound name))
  | failed {factory : Factory W} {world : W} {source : Failure} :
      context.registry.factories.get? name = some factory →
      factory context.world context.actor config = (world, .error source) →
      Opened context name config ({ context with world }, .error (.openFailed name source))
  | created {factory : Factory W} {world : W} {capability : Capability W} :
      context.registry.factories.get? name = some factory →
      factory context.world context.actor config = (world, .ok capability) →
      Opened context name config
        ({ context with world, table := context.table.extend name capability },
          .ok ⟨name, context.table.nextId⟩)

theorem openCapability_opened (context : Context W) (name : String) (config : Value) :
    Opened context name config (context.openCapability name config).value := by
  cases registered : context.registry.factories.get? name with
  | none =>
      simp only [openCapability, registered]
      exact .unregistered registered
  | some factory =>
      cases ran : factory context.world context.actor config with
      | mk world result =>
          have ran' : factory context.world context.table.actor config = (world, result) := ran
          cases result with
          | error source =>
              simp only [openCapability, registered, ran', Logged.value_bind]
              exact .failed registered ran
          | ok capability =>
              simp only [openCapability, registered, ran', Logged.value_bind]
              exact .created registered ran

/-- What opening answers. -/
theorem value_openCapability (context : Context W) (name : String) (config : Value) :
    (context.openCapability name config).value.2 =
      match context.registry.factories.get? name with
      | none => .error (.notFound name)
      | some factory =>
        match (factory context.world context.actor config).2 with
        | .error source => .error (.openFailed name source)
        | .ok _ => .ok ⟨name, context.table.nextId⟩ := by
  have opened := context.openCapability_opened name config
  generalize (context.openCapability name config).value = answered at opened
  cases opened with
  | unregistered none => rw [none]
  | failed registered ran => simp only [registered, ran]
  | created registered ran => simp only [registered, ran]

/-- A failure opens nothing. -/
theorem refused_openCapability {name : String} {config : Value} {e : CapabilityError}
    (refused : (context.openCapability name config).value.2 = .error e) :
    (context.openCapability name config).value.1.table = context.table := by
  have opened := context.openCapability_opened name config
  generalize (context.openCapability name config).value = answered at opened refused
  cases opened with
  | unregistered => rfl
  | failed => rfl
  | created => cases refused

/-! ## Using handles -/

/-- A handle gives access to a capability: every operation on the handle is one on it. -/
structure Reaches (context : Context W) (handle : Handle) (capability : Capability W) : Prop where
  canRead : context.canRead handle = capability.canRead context.world
  canWrite : context.canWrite handle = capability.canWrite context.world
  read : context.read handle =
    if capability.canRead context.world then
      ({ context with world := (capability.read context.world).1 },
        (capability.read context.world).2.mapError (.io handle.name))
    else (context, .error (.notReadable handle))
  write : ∀ value, context.write handle value =
    if capability.canWrite context.world then
      ({ context with world := (capability.write context.world value).1 },
        (capability.write context.world value).2.mapError (.io handle.name))
    else (context, .error (.notWritable handle))
  close : (context.close handle).value =
    ({ context with
        world := capability.close context.world, table := context.table.without handle }, true)

/-- A handle gives access to nothing. -/
structure Dead (context : Context W) (handle : Handle) : Prop where
  canRead : context.canRead handle = false
  canWrite : context.canWrite handle = false
  read : context.read handle = (context, .error (.unknownHandle handle))
  write : ∀ value, context.write handle value = (context, .error (.unknownHandle handle))
  close : (context.close handle).value = (context, false)

theorem reaches_of_find? (found : context.table.find? handle = some capability) :
    Reaches context handle capability where
  canRead := by rw [canRead, found, Option.any_some]
  canWrite := by rw [canWrite, found, Option.any_some]
  read := by simp only [read, found]
  write value := by simp only [write, found]
  close := by
    simp only [close, found, Logged.value_bind]
    rfl

theorem dead_of_find? (missing : context.table.find? handle = none) : Dead context handle where
  canRead := by rw [canRead, missing, Option.any_none]
  canWrite := by rw [canWrite, missing, Option.any_none]
  read := by simp only [read, missing]
  write value := by simp only [write, missing]
  close := by
    simp only [close, missing, Logged.value_bind]
    rfl

theorem table_read (context : Context W) (handle : Handle) :
    (context.read handle).1.table = context.table := by
  cases found : context.table.find? handle with
  | none => rw [(dead_of_find? found).read]
  | some capability =>
      rw [(reaches_of_find? found).read]
      split <;> rfl

theorem table_write (context : Context W) (handle : Handle) (value : Value) :
    (context.write handle value).1.table = context.table := by
  cases found : context.table.find? handle with
  | none => rw [(dead_of_find? found).write]
  | some capability =>
      rw [(reaches_of_find? found).write]
      split <;> rfl

/-! ## Closing everything -/

theorem value_closeEach (actor : ActorRef) (closing : List (Handle × Capability W)) (world : W) :
    (closeEach actor closing world).value =
      closing.foldl (fun world entry => entry.2.close world) world := by
  induction closing generalizing world with
  | nil => rfl
  | cons entry rest ih => exact ih _

/-- Closing everything closes each open capability once, in order, and answers their handles. -/
theorem value_closeAll (context : Context W) :
    context.closeAll.value =
      ({ context with
          world := context.table.opened.foldl (fun world entry => entry.2.close world)
            context.world
          table := context.table.emptied },
        context.table.opened.map Prod.fst) := by
  rw [closeAll, Logged.value_bind, value_closeEach]
  rfl

/-! ## One operation after the other -/

/-- An operation on a context. -/
inductive Call where
  | openCapability (name : String) (config : Value)
  | canRead (handle : Handle)
  | canWrite (handle : Handle)
  | read (handle : Handle)
  | write (handle : Handle) (value : Value)
  | close (handle : Handle)
  | closeAll

/-- The context after an operation, whatever that answers. -/
def perform (context : Context W) : Call → Context W
  | .openCapability name config => (context.openCapability name config).value.1
  | .canRead _ | .canWrite _ => context
  | .read handle => (context.read handle).1
  | .write handle value => (context.write handle value).1
  | .close handle => (context.close handle).value.1
  | .closeAll => context.closeAll.value.1

/-- A context stays that of its actor. -/
theorem actor_perform (context : Context W) (call : Call) :
    (context.perform call).actor = context.actor := by
  cases call with
  | openCapability name config =>
      have opened := context.openCapability_opened name config
      rw [perform]
      generalize (context.openCapability name config).value = answered at opened
      cases opened with
      | unregistered => rfl
      | failed => rfl
      | created => rfl
  | canRead handle => rfl
  | canWrite handle => rfl
  | read handle => exact congrArg HandleTable.actor (table_read context handle)
  | write handle value => exact congrArg HandleTable.actor (table_write context handle value)
  | close handle =>
      rw [perform]
      cases found : context.table.find? handle with
      | none => rw [(dead_of_find? found).close]
      | some capability =>
          rw [(reaches_of_find? found).close]
          rfl
  | closeAll =>
      rw [perform, value_closeAll]
      rfl

theorem numbered_perform (h : context.table.Numbered) (call : Call) :
    (context.perform call).table.Numbered := by
  cases call with
  | openCapability name config =>
      have opened := context.openCapability_opened name config
      rw [perform]
      generalize (context.openCapability name config).value = answered at opened
      cases opened with
      | unregistered => exact h
      | failed => exact h
      | created => exact h.extend name _
  | canRead handle => exact h
  | canWrite handle => exact h
  | read handle =>
      rw [perform, table_read]
      exact h
  | write handle value =>
      rw [perform, table_write]
      exact h
  | close handle =>
      rw [perform]
      cases found : context.table.find? handle with
      | none =>
          rw [(dead_of_find? found).close]
          exact h
      | some capability =>
          rw [(reaches_of_find? found).close]
          exact h.without handle
  | closeAll =>
      rw [perform, value_closeAll]
      exact context.table.numbered_emptied

end Context

end Dataflow
