import Dataflow.Proofs.Capability.Table
import Dataflow.Proofs.KeyMap
import Mathlib.Logic.Relation

/-!
# Closing counted

A world that also keeps a record of the capabilities opened in it for one actor: how many there
were, and each time that one of them was closed.  Everything else is as in the world itself.

* `Recorded`, `Registry.recorded` — the world with its record, and the registry whose factories
  keep it.
* `Context.Reached` — what a context can become through its operations, while its surroundings
  change.
* `Context.Accounted` — each capability that was opened is either open, or was closed once.
  Everything that happens to a context keeps this (`Reached.accounted`).
-/

namespace Dataflow

variable {W : Type}

/-- A world with a record of the capabilities that an actor opened. -/
structure Recorded (W : Type) where
  world : W
  /-- How many were created.  They are numbered from zero. -/
  created : Nat := 0
  /-- The number of a capability, each time that it was closed. -/
  closed : List Nat := []

/-- The capability with this number, whose closing is recorded. -/
def Capability.recorded (number : Nat) (capability : Capability W) : Capability (Recorded W) where
  canRead record := capability.canRead record.world
  canWrite record := capability.canWrite record.world
  read record :=
    let (world, answer) := capability.read record.world
    ({ record with world }, answer)
  write record value :=
    let (world, answer) := capability.write record.world value
    ({ record with world }, answer)
  close record :=
    { record with
      world := capability.close record.world
      closed := record.closed ++ [number] }

/-- The factory whose capabilities are recorded. -/
def Factory.recorded (factory : Factory W) : Factory (Recorded W) := fun record actor config =>
  match factory record.world actor config with
  | (world, .error source) => ({ record with world }, .error source)
  | (world, .ok capability) =>
    ({ record with world, created := record.created + 1 },
      .ok (capability.recorded record.created))

/-- The registry whose capabilities are recorded. -/
def Registry.recorded (registry : Registry W) : Registry (Recorded W) :=
  ⟨registry.factories.mapValues Factory.recorded⟩

namespace Context

variable {before after context : Context (Recorded W)}

/-- A context in other surroundings, with its record. -/
def amid (context : Context (Recorded W)) (registry : Registry W) (world : W) :
    Context (Recorded W) :=
  { context with registry := registry.recorded, world := { context.world with world } }

/-- Something that happens to a context. -/
inductive Acts : Context (Recorded W) → Context (Recorded W) → Prop
  | call (context : Context (Recorded W)) (call : Call) : Acts context (context.perform call)
  | around (context : Context (Recorded W)) (registry : Registry W) (world : W) :
      Acts context (context.amid registry world)

/-- What a context can become. -/
abbrev Reached : Context (Recorded W) → Context (Recorded W) → Prop := Relation.ReflTransGen Acts

theorem Reached.perform (context : Context (Recorded W)) (call : Call) :
    Reached context (context.perform call) := .single (.call context call)

theorem Reached.actor (reached : Reached before after) : after.actor = before.actor := by
  induction reached with
  | refl => rfl
  | tail _ acts ih =>
      rw [← ih]
      cases acts with
      | call call => exact actor_perform _ call
      | around registry world => rfl

/-! ## The account of a context -/

/-- Each capability that was opened through the context is either open, or was closed once. -/
structure Accounted (context : Context (Recorded W)) : Prop where
  numbered : context.table.Numbered
  registry : ∃ registry : Registry W, context.registry = registry.recorded
  recorded : ∀ entry ∈ context.table.opened,
    ∃ capability : Capability W, entry.2 = capability.recorded entry.1.id
  created : context.table.nextId = context.world.created
  closed : (context.world.closed ++ context.table.opened.map fun entry => entry.1.id).Perm
    (List.range context.world.created)

theorem accounted_new (actor : ActorRef) (registry : Registry W) (world : W) :
    ({ table := { actor }, registry := registry.recorded, world := { world } } :
      Context (Recorded W)).Accounted where
  numbered := HandleTable.numbered_new actor
  registry := ⟨registry, rfl⟩
  recorded _ member := by cases member
  created := rfl
  closed := List.Perm.nil

/-- If nothing is open any more, everything was closed once. -/
theorem Accounted.all_closed (h : context.Accounted) (none : context.openHandles = []) :
    context.world.closed.Perm (List.range context.world.created) := by
  have closed := h.closed
  rw [HandleTable.handles_eq_nil_iff.1 none, List.map_nil, List.append_nil] at closed
  exact closed

/-- A change of the world that is none of the record. -/
theorem Accounted.around (h : context.Accounted) (world : W) :
    ({ context with world := { context.world with world } } : Context (Recorded W)).Accounted where
  numbered := h.numbered
  registry := h.registry
  recorded := h.recorded
  created := h.created
  closed := h.closed

theorem Accounted.amid (h : context.Accounted) (registry : Registry W) (world : W) :
    (context.amid registry world).Accounted :=
  { h.around world with registry := ⟨registry, rfl⟩ }

theorem Accounted.created_extend (h : context.Accounted) (name : String)
    (capability : Capability W) (world : W) :
    ({ context with
        world := { context.world with world, created := context.world.created + 1 }
        table := context.table.extend name (capability.recorded context.world.created) } :
      Context (Recorded W)).Accounted where
  numbered := h.numbered.extend name _
  registry := h.registry
  recorded entry member := by
    rcases HandleTable.mem_place member with rfl | old
    · exact ⟨capability, by rw [h.created]⟩
    · exact h.recorded entry old
  created := congrArg Nat.succ h.created
  closed := by
    have extended := (h.numbered.extend_perm name (capability.recorded context.world.created)).map
      fun entry => entry.1.id
    rw [List.map_cons, h.created] at extended
    rw [List.range_succ]
    refine (extended.append_left _).trans (List.perm_middle.trans ?_)
    exact (h.closed.cons _).trans (List.perm_append_singleton ..).symm

theorem Accounted.openCapability (h : context.Accounted) (name : String) (config : Value) :
    (context.openCapability name config).value.1.Accounted := by
  obtain ⟨registry, recorded⟩ := h.registry
  have opened := context.openCapability_opened name config
  generalize (context.openCapability name config).value = answered at opened
  cases opened with
  | unregistered none => exact h
  | failed registered ran =>
      rw [recorded, Registry.recorded, KeyMap.get?_mapValues] at registered
      obtain ⟨factory, -, rfl⟩ := Option.map_eq_some_iff.1 registered
      rw [Factory.recorded] at ran
      split at ran
      · cases ran
        exact h.around _
      · cases ran
  | created registered ran =>
      rw [recorded, Registry.recorded, KeyMap.get?_mapValues] at registered
      obtain ⟨factory, -, rfl⟩ := Option.map_eq_some_iff.1 registered
      rw [Factory.recorded] at ran
      split at ran
      · cases ran
      · cases ran
        exact h.created_extend name _ _

theorem Accounted.read (h : context.Accounted) (handle : Handle) :
    (context.read handle).1.Accounted := by
  cases found : context.table.find? handle with
  | none =>
      rw [(dead_of_find? found).read]
      exact h
  | some capability =>
      obtain ⟨inner, same⟩ := h.recorded _ (HandleTable.mem_of_find? found)
      obtain rfl : capability = inner.recorded handle.id := same
      rw [(reaches_of_find? found).read]
      split
      · exact h.around _
      · exact h

theorem Accounted.write (h : context.Accounted) (handle : Handle) (value : Value) :
    (context.write handle value).1.Accounted := by
  cases found : context.table.find? handle with
  | none =>
      rw [(dead_of_find? found).write]
      exact h
  | some capability =>
      obtain ⟨inner, same⟩ := h.recorded _ (HandleTable.mem_of_find? found)
      obtain rfl : capability = inner.recorded handle.id := same
      rw [(reaches_of_find? found).write]
      split
      · exact h.around _
      · exact h

/-- Closing recorded capabilities records each of them once, in order. -/
theorem foldl_close_recorded {closing : List (Handle × Capability (Recorded W))}
    (recorded : ∀ entry ∈ closing,
      ∃ capability : Capability W, entry.2 = capability.recorded entry.1.id)
    (record : Recorded W) :
    (closing.foldl (fun record entry => entry.2.close record) record).created = record.created ∧
    (closing.foldl (fun record entry => entry.2.close record) record).closed =
      record.closed ++ closing.map fun entry => entry.1.id := by
  induction closing generalizing record with
  | nil => exact ⟨rfl, (List.append_nil _).symm⟩
  | cons entry rest ih =>
      obtain ⟨capability, same⟩ := recorded entry (List.mem_cons_self ..)
      obtain ⟨created, closed⟩ := ih (fun other member => recorded other
        (List.mem_cons_of_mem _ member)) (entry.2.close record)
      rw [List.foldl_cons, created, closed, same, List.map_cons, List.append_cons]
      exact ⟨rfl, rfl⟩

/-- Some of the open capabilities are closed. -/
theorem Accounted.shut (h : context.Accounted) {table : HandleTable (Recorded W)}
    {closing : List (Handle × Capability (Recorded W))} (numbered : table.Numbered)
    (number : table.nextId = context.table.nextId)
    (split : context.table.opened.Perm (closing ++ table.opened)) :
    ({ context with
        world := closing.foldl (fun record entry => entry.2.close record) context.world
        table } : Context (Recorded W)).Accounted := by
  have recorded := fun entry member => h.recorded entry (split.mem_iff.2 member)
  obtain ⟨created, closed⟩ := foldl_close_recorded
    (fun entry member => recorded entry (List.mem_append_left _ member)) context.world
  exact
    { numbered := numbered
      registry := h.registry
      recorded := fun entry member => recorded entry (List.mem_append_right _ member)
      created := number.trans (h.created.trans created.symm)
      closed := by
        rw [created, closed, List.append_assoc, ← List.map_append]
        exact ((split.map _).symm.append_left _).trans h.closed }

theorem Accounted.close (h : context.Accounted) (handle : Handle) :
    (context.close handle).value.1.Accounted := by
  cases found : context.table.find? handle with
  | none =>
      rw [(dead_of_find? found).close]
      exact h
  | some capability =>
      have split : context.table.opened.Perm
          ([(handle, capability)] ++ (context.table.without handle).opened) :=
        h.numbered.perm_without (HandleTable.mem_of_find? found)
      rw [(reaches_of_find? found).close]
      exact h.shut (h.numbered.without handle) rfl split

theorem Accounted.closeAll (h : context.Accounted) : context.closeAll.value.1.Accounted := by
  rw [value_closeAll]
  exact h.shut context.table.numbered_emptied rfl (.of_eq (List.append_nil _).symm)

theorem Accounted.created_closeAll (h : context.Accounted) :
    context.closeAll.value.1.world.created = context.world.created := by
  rw [value_closeAll]
  exact (foldl_close_recorded h.recorded context.world).1

theorem Accounted.perform (h : context.Accounted) (call : Call) :
    (context.perform call).Accounted := by
  cases call with
  | openCapability name config => exact h.openCapability name config
  | canRead handle => exact h
  | canWrite handle => exact h
  | read handle => exact h.read handle
  | write handle value => exact h.write handle value
  | close handle => exact h.close handle
  | closeAll => exact h.closeAll

/-- Whatever happens to a context, it stays accounted for. -/
theorem Reached.accounted (reached : Reached before after) (h : before.Accounted) :
    after.Accounted := by
  induction reached with
  | refl => exact h
  | tail _ acts ih =>
      cases acts with
      | call call => exact ih.perform call
      | around registry world => exact ih.amid registry world

end Context

end Dataflow
