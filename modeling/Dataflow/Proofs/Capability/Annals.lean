import Dataflow.Proofs.Capability.Table

/-!
# The annals of a table of capabilities

A table is used through any sequence of operations, while names are registered and unregistered and
the world changes by itself.  The annals keep what the operations answered to have opened and closed
on the way, and what the factories had created at each opening.

* `Context.Annals`, `Context.Annals.run` — a context with its annals, and those of several steps.
* `Context.Annals.Sound` — the table holds what was opened and is not closed; every step keeps this
  (`Sound.record`).
* `Context.Annals.run_safe` — in the annals of a new table no handle occurs twice, an open one
  reaches the capability that was created for it, and a closed one reaches nothing any more.
-/

namespace Dataflow

namespace Context

variable {W : Type} {context : Context W}

/-! ## What an operation opens and closes -/

/-- The capability that the factory registered under a name creates, if there is one and it does. -/
def created? (context : Context W) (name : String) (config : Value) : Option (Capability W) :=
  (context.registry.factories.get? name).bind fun factory =>
    (factory context.world context.actor config).2.toOption

/-- The handle that an operation answers to have opened, with the capability that was created at
that, if one was. -/
def opens? (context : Context W) : Call → Option (Handle × Option (Capability W))
  | .openCapability name config =>
    (context.openCapability name config).value.2.toOption.map fun handle =>
      (handle, context.created? name config)
  | _ => none

/-- The handles that an operation answers to have closed. -/
def closes (context : Context W) : Call → List Handle
  | .close handle => if (context.close handle).value.2 then [handle] else []
  | .closeAll => context.closeAll.value.2
  | _ => []

/-- What was created is opened under the next number.  If nothing was, the table stays as it is. -/
theorem table_openCapability (context : Context W) (name : String) (config : Value) :
    (∃ capability, (context.openCapability name config).value.1.table =
        context.table.extend name capability ∧
      context.opens? (.openCapability name config) =
        some (⟨name, context.table.nextId⟩, some capability)) ∨
    (context.openCapability name config).value.1.table = context.table ∧
      context.opens? (.openCapability name config) = none := by
  have opened := context.openCapability_opened name config
  rw [opens?]
  generalize (context.openCapability name config).value = answered at opened
  cases opened with
  | unregistered none => exact Or.inr ⟨rfl, rfl⟩
  | failed registered ran => exact Or.inr ⟨rfl, rfl⟩
  | created registered ran =>
      refine Or.inl ⟨_, rfl, ?_⟩
      simp only [created?, registered, Option.bind_some, ran]
      rfl

/-! ## Annals -/

/-- A context, with all handles that were opened and all that were closed through it. -/
structure Annals (W : Type) where
  context : Context W
  /-- The handles that were opened, in order, with what was created for them. -/
  opened : List (Handle × Option (Capability W)) := []
  /-- The handles that were closed, in order. -/
  closed : List Handle := []

namespace Annals

/-- Something that happens to a table, or around it. -/
inductive Step (W : Type) where
  | call (call : Call)
  | register (name : String) (factory : Factory W)
  | unregister (name : String)
  /-- The world becomes another one. -/
  | outside (world : W)

/-- The annals after a step. -/
def record (annals : Annals W) : Step W → Annals W
  | .call call =>
    { context := annals.context.perform call
      opened := annals.opened ++ (annals.context.opens? call).toList
      closed := annals.closed ++ annals.context.closes call }
  | .register name factory =>
    let registry := (annals.context.registry.register name factory).value.1
    { annals with context := { annals.context with registry } }
  | .unregister name =>
    let registry := (annals.context.registry.unregister name).1
    { annals with context := { annals.context with registry } }
  | .outside world => { annals with context := { annals.context with world } }

/-- The annals after some steps. -/
def run (annals : Annals W) (steps : List (Step W)) : Annals W := steps.foldl record annals

/-- The table holds what was created and is not closed, and what was opened bears the numbers in
order. -/
structure Sound (annals : Annals W) : Prop where
  numbered : annals.context.table.Numbered
  numbers : annals.opened.map (fun entry => entry.1.id) = List.range annals.context.table.nextId
  created : ∀ entry ∈ annals.opened, ∃ capability, entry.2 = some capability
  entries : (annals.context.table.opened.map (Prod.map id some)).Perm
    (annals.opened.filter fun entry => entry.1 ∉ annals.closed)
  known : ∀ handle ∈ annals.closed, handle ∈ annals.opened.map Prod.fst

variable {annals : Annals W} {handle : Handle} {capability : Capability W}

theorem sound_new (actor : ActorRef) (registry : Registry W) (world : W) :
    ({ context := { table := { actor }, registry, world } } : Annals W).Sound where
  numbered := HandleTable.numbered_new actor
  numbers := rfl
  created _ member := by cases member
  entries := .nil
  known _ member := by cases member

theorem Sound.mem_opened (h : annals.Sound) : (handle, capability) ∈ annals.context.table.opened ↔
    (handle, some capability) ∈ annals.opened ∧ handle ∉ annals.closed := by
  have entry := h.entries.mem_iff (a := (handle, some capability))
  rw [List.mem_filter, decide_eq_true_iff] at entry
  rw [← entry, List.mem_map]
  constructor
  · exact fun there => ⟨_, there, rfl⟩
  · rintro ⟨⟨_, _⟩, there, ⟨⟩⟩
    exact there

/-- The open handles are those that were opened and not closed. -/
theorem Sound.handles_perm (h : annals.Sound) : (annals.context.table.opened.map Prod.fst).Perm
    ((annals.opened.map Prod.fst).filter fun handle => handle ∉ annals.closed) := by
  have handles := h.entries.map Prod.fst
  rw [List.map_map] at handles
  rw [List.filter_map]
  exact handles

theorem Sound.mem_handles (h : annals.Sound) : handle ∈ annals.context.table.opened.map Prod.fst ↔
    handle ∈ annals.opened.map Prod.fst ∧ handle ∉ annals.closed := by
  rw [h.handles_perm.mem_iff, List.mem_filter, decide_eq_true_iff]

theorem Sound.below (h : annals.Sound) (there : handle ∈ annals.opened.map Prod.fst) :
    handle.id < annals.context.table.nextId := by
  obtain ⟨entry, member, rfl⟩ := List.mem_map.1 there
  have numbered : entry.1.id ∈ List.range annals.context.table.nextId :=
    h.numbers ▸ List.mem_map_of_mem member
  exact List.mem_range.1 numbered

/-- What was opened bears ascending numbers. -/
theorem Sound.ascending (h : annals.Sound) :
    (annals.opened.map Prod.fst).Pairwise fun a b => a.id < b.id := by
  refine List.pairwise_map.1 ?_
  rw [List.map_map]
  exact h.numbers ▸ List.pairwise_lt_range

/-- Listed by number, the open handles are in the order of opening. -/
theorem Sound.handles (h : annals.Sound) : annals.context.openHandles =
    (annals.opened.map Prod.fst).filter fun handle => handle ∉ annals.closed := by
  have distinct : (annals.opened.map Prod.fst |>.map Handle.id).Nodup :=
    List.pairwise_map.2 (h.ascending.imp Nat.ne_of_lt)
  have perm := annals.context.table.handles_perm.trans h.handles_perm
  refine List.Perm.eq_of_pairwise (fun a b left right one other => ?_)
    annals.context.table.handles_pairwise
    ((h.ascending.filter _).imp Nat.le_of_lt) perm
  have first := (List.mem_filter.1 (perm.mem_iff.1 left)).1
  exact List.inj_on_of_nodup_map distinct first (List.mem_filter.1 right).1
    (Nat.le_antisymm one other)

/-! ## Every step keeps the annals -/

/-- A step that opens and closes nothing. -/
theorem Sound.still (h : annals.Sound) {context : Context W}
    (same : context.table = annals.context.table) :
    ({ annals with context } : Annals W).Sound where
  numbered := by
    rw [same]
    exact h.numbered
  numbers := by
    rw [same]
    exact h.numbers
  created := h.created
  entries := by
    rw [same]
    exact h.entries
  known := h.known

/-- A capability is opened. -/
theorem Sound.extend (h : annals.Sound) {context : Context W} {name : String}
    {capability : Capability W}
    (extended : context.table = annals.context.table.extend name capability) :
    ({ context
       opened := annals.opened ++ [(⟨name, annals.context.table.nextId⟩, some capability)]
       closed := annals.closed } : Annals W).Sound where
  numbered := by
    rw [extended]
    exact h.numbered.extend name capability
  numbers := by
    rw [extended, List.map_append, h.numbers]
    exact List.range_succ.symm
  created entry member := by
    rcases List.mem_append.1 member with old | new
    · exact h.created entry old
    · rw [List.mem_singleton.1 new]
      exact ⟨capability, rfl⟩
  entries := by
    -- no handle that was closed bears the next number
    have fresh : (⟨name, annals.context.table.nextId⟩ : Handle) ∉ annals.closed := fun closed =>
      Nat.lt_irrefl _ (h.below (h.known _ closed))
    have kept : [((⟨name, annals.context.table.nextId⟩ : Handle), some capability)].filter
        (fun entry => entry.1 ∉ annals.closed) =
          [(⟨name, annals.context.table.nextId⟩, some capability)] :=
      List.filter_cons_of_pos (by simpa using fresh)
    rw [extended, List.filter_append, kept]
    refine ((h.numbered.extend_perm name capability).map _).trans ?_
    exact (h.entries.cons _).trans (List.perm_append_singleton ..).symm
  known handle closed := by
    rw [List.map_append]
    exact List.mem_append_left _ (h.known handle closed)

/-- Handles are closed that were open. -/
theorem Sound.shut (h : annals.Sound) {context : Context W} {handles : List Handle}
    (wereOpen : ∀ handle ∈ handles, handle ∈ annals.context.table.opened.map Prod.fst)
    (numbered : context.table.Numbered)
    (numbers : context.table.nextId = annals.context.table.nextId)
    (left : context.table.opened =
      annals.context.table.opened.filter fun entry => entry.1 ∉ handles) :
    ({ context
       opened := annals.opened
       closed := annals.closed ++ handles } : Annals W).Sound where
  numbered := numbered
  numbers := by rw [numbers]; exact h.numbers
  created := h.created
  entries := by
    have entries := h.entries.filter fun entry => entry.1 ∉ handles
    rw [List.filter_map, List.filter_filter] at entries
    rw [left]
    refine entries.trans (.of_eq (List.filter_congr fun entry _ => ?_))
    simp only [List.mem_append, not_or, Bool.decide_and, Bool.and_comm]
  known handle closed := by
    rcases List.mem_append.1 closed with before | now
    · exact h.known handle before
    · exact (h.mem_handles.1 (wereOpen handle now)).1

theorem record_still {call : Call} (opens : annals.context.opens? call = none)
    (closes : annals.context.closes call = []) :
    annals.record (.call call) = { annals with context := annals.context.perform call } := by
  simp [record, opens, closes]

theorem Sound.call (h : annals.Sound) (call : Call) : (annals.record (.call call)).Sound := by
  cases call with
  | openCapability name config =>
      rcases annals.context.table_openCapability name config with
        ⟨capability, extended, opens⟩ | ⟨same, none⟩
      · have grown : annals.record (.call (.openCapability name config)) =
            { context := annals.context.perform (.openCapability name config)
              opened := annals.opened ++ [(⟨name, annals.context.table.nextId⟩, some capability)]
              closed := annals.closed } := by
          simp [record, opens, closes]
        rw [grown]
        exact h.extend extended
      · rw [record_still none rfl]
        exact h.still same
  | canRead handle =>
      rw [record_still rfl rfl]
      exact h.still rfl
  | canWrite handle =>
      rw [record_still rfl rfl]
      exact h.still rfl
  | read handle =>
      rw [record_still rfl rfl]
      exact h.still (table_read _ handle)
  | write handle value =>
      rw [record_still rfl rfl]
      exact h.still (table_write _ handle value)
  | close handle =>
      cases found : annals.context.table.find? handle with
      | none =>
          have dead := dead_of_find? found
          have closesNone : annals.context.closes (.close handle) = [] := by
            rw [closes, dead.close]
            rfl
          rw [record_still rfl closesNone]
          refine h.still ?_
          rw [perform, dead.close]
      | some capability =>
          have reaches := reaches_of_find? found
          have closed : annals.record (.call (.close handle)) =
              { context := (annals.context.close handle).value.1
                opened := annals.opened
                closed := annals.closed ++ [handle] } := by
            simp [record, opens?, closes, perform, reaches.close]
          rw [closed, reaches.close]
          refine h.shut (fun other member => ?_) (h.numbered.without handle) rfl ?_
          · rw [List.mem_singleton.1 member]
            exact List.mem_map_of_mem (HandleTable.mem_of_find? found)
          · refine List.filter_congr fun entry _ => ?_
            simp only [List.mem_singleton]
  | closeAll =>
      have closed : annals.record (.call .closeAll) =
          { context := annals.context.closeAll.value.1
            opened := annals.opened
            closed := annals.closed ++ annals.context.table.opened.map Prod.fst } := by
        simp [record, opens?, closes, perform, value_closeAll]
      rw [closed, value_closeAll]
      refine h.shut (fun handle member => member) (HandleTable.numbered_emptied _) rfl ?_
      refine (List.filter_eq_nil_iff.2 fun entry there => ?_).symm
      rw [decide_eq_true_iff]
      exact not_not_intro (List.mem_map_of_mem there)

theorem Sound.record (h : annals.Sound) (step : Step W) : (annals.record step).Sound := by
  cases step with
  | call call => exact h.call call
  | register name factory => exact h.still rfl
  | unregister name => exact h.still rfl
  | outside world => exact h.still rfl

theorem Sound.run (h : annals.Sound) (steps : List (Step W)) : (annals.run steps).Sound := by
  induction steps generalizing annals with
  | nil => exact h
  | cons step rest ih => exact ih (h.record step)

/-! ## The laws of the annals -/

/-- What handles are worth, given what was opened and closed so far. -/
structure Safe (annals : Annals W) : Prop where
  /-- Each opening was given the next number. -/
  numbers : annals.opened.map (fun entry => entry.1.id) = List.range annals.opened.length ∧
    annals.context.table.nextId = annals.opened.length
  /-- No handle is given out twice. -/
  distinct : (annals.opened.map Prod.fst).Nodup
  /-- What is open is what was opened and not closed, in this order. -/
  openHandles : annals.context.openHandles =
    (annals.opened.map Prod.fst).filter fun handle => handle ∉ annals.closed
  /-- A capability was created for every handle, and the handle gives access to it while open. -/
  reaches : ∀ entry ∈ annals.opened, ∃ capability, entry.2 = some capability ∧
    (entry.1 ∉ annals.closed → annals.context.Reaches entry.1 capability)
  /-- A closed handle gives access to nothing. -/
  dead : ∀ handle ∈ annals.closed, annals.context.Dead handle
  /-- Closing everything closes each capability once that is open, by name and then by number. -/
  closeAll : ∃ closing : List (Handle × Capability W),
    (closing.map (Prod.map id some)).Perm
      (annals.opened.filter fun entry => entry.1 ∉ annals.closed) ∧
    closing.Pairwise (fun a b => a.1.name < b.1.name ∨ a.1.name = b.1.name ∧ a.1.id < b.1.id) ∧
    annals.context.closeAll.value =
      ({ annals.context with
          world := closing.foldl (fun world entry => entry.2.close world) annals.context.world
          table := { annals.context.table with opened := [] } },
        closing.map Prod.fst)
  /-- Opening is answered with a new handle if something is registered under the name and creates a
  capability, and with an error if not. -/
  answers : ∀ name config, (annals.context.openCapability name config).value.2 =
    match annals.context.registry.factories.get? name with
    | none => .error (.notFound name)
    | some factory =>
      match (factory annals.context.world annals.context.actor config).2 with
      | .error source => .error (.openFailed name source)
      | .ok _ => .ok ⟨name, annals.opened.length⟩
  /-- An opening that is answered with an error leaves the table as it is, the next number
  included. -/
  refused : ∀ name config e, (annals.context.openCapability name config).value.2 = .error e →
    (annals.context.openCapability name config).value.1.table = annals.context.table

theorem Sound.length_opened (h : annals.Sound) :
    annals.context.table.nextId = annals.opened.length := by
  have lengths := congrArg List.length h.numbers
  rw [List.length_map, List.length_range] at lengths
  exact lengths.symm

theorem Sound.safe (h : annals.Sound) : annals.Safe where
  numbers := ⟨h.length_opened ▸ h.numbers, h.length_opened⟩
  distinct := h.ascending.imp fun {a b} less same => Nat.ne_of_lt less (congrArg Handle.id same)
  openHandles := h.handles
  reaches entry there := by
    obtain ⟨handle, made⟩ := entry
    obtain ⟨capability, rfl⟩ : ∃ capability, made = some capability := h.created _ there
    refine ⟨capability, rfl, fun unclosed => reaches_of_find? ?_⟩
    exact h.numbered.find?_of_mem (h.mem_opened.2 ⟨there, unclosed⟩)
  dead handle closed := by
    refine dead_of_find? (HandleTable.find?_eq_none_iff.2 fun member => ?_)
    exact (h.mem_handles.1 (HandleTable.mem_handles.1 member)).2 closed
  closeAll := by
    refine ⟨annals.context.table.opened, h.entries, ?_, value_closeAll _⟩
    exact h.numbered.ordered.imp Handle.precedes_iff.1
  answers name config := by
    rw [← h.length_opened]
    exact value_openCapability annals.context name config
  refused _ _ _ := refused_openCapability

/-- In the annals of a new table handles are safe, whatever is done with it, with its registry and
in its world. -/
theorem run_safe (actor : ActorRef) (registry : Registry W) (world : W) (steps : List (Step W)) :
    (run { context := { table := { actor }, registry, world } } steps).Safe :=
  ((sound_new actor registry world).run steps).safe

end Annals

end Context

end Dataflow
