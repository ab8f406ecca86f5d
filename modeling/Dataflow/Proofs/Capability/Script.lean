import Dataflow.Capability.Device
import Dataflow.Proofs.Capability.Table

/-!
# Capabilities on one script

What the operations of an actor's context do to a script, if every capability that the actor has
open is one on that script.

* `Context.OnScript` — all open capabilities are on the script.
* `Context.Leaves` — the context after an operation: still on the script, and with the given values
  left to be read.
* `Context.read_onScript` — a read that is possible takes the first value.  All other operations
  leave the values to be read as they are (`openCapability_onScript`, `write_onScript`,
  `close_onScript`, `closeAll_onScript`).
-/

namespace Dataflow

/-! ## Worlds with a script -/

namespace DeviceWorld

@[simp] theorem length_setScript (world : DeviceWorld) (place : Nat) (script : Script) :
    (world.setScript place script).scripts.length = world.scripts.length := by
  simp [setScript]

theorem script_setScript {world : DeviceWorld} {place : Nat}
    (placed : place < world.scripts.length) (script : Script) :
    (world.setScript place script).script place = script := by
  simp [setScript, DeviceWorld.script, placed]

end DeviceWorld

namespace Context

variable {context after : Context DeviceWorld} {place : Nat} {reads : List Value}

/-- The script exists, and all open capabilities are on it. -/
structure OnScript (place : Nat) (context : Context DeviceWorld) : Prop where
  placed : place < context.world.scripts.length
  opened : ∀ entry ∈ context.table.opened, entry.2 = Capability.script place

/-- The values that the script has left to be read. -/
def unread (context : Context DeviceWorld) (place : Nat) : List Value :=
  (context.world.script place).reads

/-- What an operation leaves behind: the same actor with the same registry, still on the script,
and the given values left to be read. -/
structure Leaves (place : Nat) (before : Context DeviceWorld) (reads : List Value)
    (after : Context DeviceWorld) : Prop extends OnScript place after where
  actor : after.actor = before.actor
  registry : after.registry = before.registry
  unread : after.unread place = reads

theorem OnScript.leaves_self (h : context.OnScript place) :
    Leaves place context (context.unread place) context :=
  { h with actor := rfl, registry := rfl, unread := rfl }

theorem OnScript.find? (h : context.OnScript place) {handle : Handle}
    {capability : Capability DeviceWorld} (found : context.table.find? handle = some capability) :
    capability = .script place := by
  obtain ⟨entry, there, rfl⟩ := Option.map_eq_some_iff.1 found
  exact h.opened entry (List.mem_of_find?_eq_some there)

/-- A world with another state of the script, everything else being the same. -/
theorem OnScript.leaves_setScript (h : context.OnScript place) (script : Script) :
    Leaves place context script.reads
      { context with world := context.world.setScript place script } where
  placed := by
    rw [DeviceWorld.length_setScript]
    exact h.placed
  opened := h.opened
  actor := rfl
  registry := rfl
  unread := congrArg Script.reads (DeviceWorld.script_setScript h.placed script)

/-! ## Operations -/

/-- Opening a capability on the script succeeds. -/
theorem openCapability_onScript (h : context.OnScript place) {name : String}
    (registered : context.registry.factories.get? name = some (Device.script place).factory)
    (config : Value) :
    ∃ handle after, (context.openCapability name config).value = (after, .ok handle) ∧
      Leaves place context (context.unread place) after := by
  have changed := h.leaves_setScript
    { context.world.script place with configs := (context.world.script place).configs ++ [config] }
  refine ⟨⟨name, context.table.nextId⟩, { context with
    table := context.table.extend name (.script place)
    world := context.world.setScript place { context.world.script place with
      configs := (context.world.script place).configs ++ [config] } }, ?_, ?_⟩
  · simp only [openCapability, registered, Device.factory]
    rfl
  · refine ⟨⟨changed.placed, fun entry member => ?_⟩, rfl, rfl, changed.unread⟩
    rcases HandleTable.mem_place member with rfl | there
    · rfl
    · exact h.opened entry there

/-- A read that is possible takes the first value. -/
theorem read_onScript (h : context.OnScript place) {handle : Handle}
    (readable : context.canRead handle = true) :
    ∃ value rest after, context.unread place = value :: rest ∧
      context.read handle = (after, .ok value) ∧ Leaves place context rest after := by
  cases found : context.table.find? handle with
  | none => simp [canRead, found] at readable
  | some capability =>
      obtain rfl := h.find? found
      cases left : (context.world.script place).reads with
      | nil => simp [canRead, found, Capability.script, left] at readable
      | cons value rest =>
          refine ⟨value, rest, _, left, ?_,
            h.leaves_setScript { context.world.script place with reads := rest }⟩
          simp only [read, found, Capability.script, left, Script.read]
          rfl

/-- A write that is possible leaves the values to be read as they are. -/
theorem write_onScript (h : context.OnScript place) {handle : Handle}
    (writable : context.canWrite handle = true) (value : Value) :
    ∃ after, context.write handle value = (after, .ok ()) ∧
      Leaves place context (context.unread place) after := by
  cases found : context.table.find? handle with
  | none => simp [canWrite, found] at writable
  | some capability =>
      obtain rfl := h.find? found
      refine ⟨_, ?_, h.leaves_setScript ((context.world.script place).write value)⟩
      simp only [canWrite, found, Option.any_some] at writable
      simp only [write, found, if_pos writable]
      rfl

/-- Closing a handle leaves the values to be read as they are. -/
theorem close_onScript (h : context.OnScript place) (handle : Handle) :
    Leaves place context (context.unread place) (context.close handle).value.1 := by
  cases found : context.table.find? handle with
  | none =>
      simp only [close, found]
      exact h.leaves_self
  | some capability =>
      obtain rfl := h.find? found
      have changed := h.leaves_setScript
        { context.world.script place with closed := (context.world.script place).closed + 1 }
      simp only [close, found]
      exact ⟨⟨changed.placed, fun entry member => h.opened entry ((List.mem_filter.1 member).1)⟩,
        rfl, rfl, changed.unread⟩

theorem closeEach_onScript (actor : ActorRef) {closing : List (Handle × Capability DeviceWorld)}
    (h : ∀ entry ∈ closing, entry.2 = Capability.script place) {world : DeviceWorld}
    (placed : place < world.scripts.length) :
    place < (closeEach actor closing world).value.scripts.length ∧
      ((closeEach actor closing world).value.script place).reads =
        (world.script place).reads := by
  induction closing generalizing world with
  | nil => exact ⟨placed, rfl⟩
  | cons entry rest ih =>
      have here := h entry (List.mem_cons_self ..)
      have later := fun other member => h other (List.mem_cons_of_mem entry member)
      have unread := congrArg Script.reads (DeviceWorld.script_setScript placed
        { world.script place with closed := (world.script place).closed + 1 })
      have remains : place < ((Capability.script place).close world).scripts.length := by
        show place < (world.setScript place _).scripts.length
        rwa [DeviceWorld.length_setScript]
      obtain ⟨kept, same⟩ := ih later remains
      rw [closeEach, Logged.value_bind, here]
      exact ⟨kept, same.trans unread⟩

/-- Closing everything leaves the values to be read as they are. -/
theorem closeAll_onScript (h : context.OnScript place) :
    Leaves place context (context.unread place) context.closeAll.value.1 := by
  obtain ⟨placed, unread⟩ := closeEach_onScript context.actor h.opened h.placed
  exact ⟨⟨placed, fun entry member => by cases member⟩, rfl, rfl, unread⟩

end Context

end Dataflow
