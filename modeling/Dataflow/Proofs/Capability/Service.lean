import Dataflow.Proofs.Capability.Script
import Dataflow.Proofs.Capability.Table

/-!
# What a script is used for

Capabilities on one script stand in the tables of actors beside others that have nothing to do with
it.  Each operation of a context then leaves the script as it is, or does to it what its answer
says.

* `Capability.Apart`, `Factory.Apart` — a capability, and a factory, that never touches the script.
  All devices but the script itself are such (`Device.apart_factory`).
* `Context.taken`, `Context.sent`, `Context.configured` — what an operation reads from the script,
  writes to it, and opens it with.
* `Context.Serves`, `Context.perform_serves` — an operation takes these values from the front of
  those to be read, and puts them at the end of the script's records.  What it closes is counted.
-/

namespace Dataflow

/-! ## Capabilities that leave a script alone -/

/-- The script is still there, as it was. -/
structure DeviceWorld.Spares (place : Nat) (before after : DeviceWorld) : Prop where
  placed : place < after.scripts.length
  script : after.script place = before.script place

/-- A capability that never touches the script. -/
structure Capability.Apart (place : Nat) (capability : Capability DeviceWorld) : Prop where
  read : ∀ world : DeviceWorld, place < world.scripts.length →
    world.Spares place (capability.read world).1
  write : ∀ world : DeviceWorld, place < world.scripts.length → ∀ value,
    world.Spares place (capability.write world value).1
  close : ∀ world : DeviceWorld, place < world.scripts.length →
    world.Spares place (capability.close world)

/-- A factory that never touches the script, and creates only what never does. -/
structure Factory.Apart (place : Nat) (factory : Factory DeviceWorld) : Prop where
  opens : ∀ world : DeviceWorld, place < world.scripts.length → ∀ actor config,
    world.Spares place (factory world actor config).1
  creates : ∀ world actor config after capability,
    factory world actor config = (after, .ok capability) → capability.Apart place

variable {place : Nat}

theorem DeviceWorld.Spares.refl {world : DeviceWorld} (placed : place < world.scripts.length) :
    world.Spares place world := ⟨placed, rfl⟩

theorem DeviceWorld.spares_setScript {world : DeviceWorld} {other : Nat} (different : other ≠ place)
    (placed : place < world.scripts.length) (script : Script) :
    world.Spares place (world.setScript other script) where
  placed := by
    rw [length_setScript]
    exact placed
  script := by
    simp [setScript, DeviceWorld.script, List.getD_eq_getElem?_getD,
      List.getElem?_set_ne different]

theorem Capability.script_close {world : DeviceWorld} (placed : place < world.scripts.length) :
    place < ((Capability.script place).close world).scripts.length ∧
      ((Capability.script place).close world).script place =
        { world.script place with closed := (world.script place).closed + 1 } :=
  ⟨(world.length_setScript place _).symm ▸ placed, DeviceWorld.script_setScript placed _⟩

/-- A capability on the script is not apart from it: the script counts how often it is closed. -/
theorem Capability.Apart.ne_script {capability : Capability DeviceWorld}
    (apart : capability.Apart place) : capability ≠ .script place := by
  rintro rfl
  have placed :
      place < ({ scripts := List.replicate (place + 1) {} } : DeviceWorld).scripts.length := by
    simp
  have spared := (apart.close _ placed).script
  rw [(Capability.script_close placed).2] at spared
  exact absurd (congrArg Script.closed spared) (Nat.succ_ne_self _)

/-- Neither is the factory of the script. -/
theorem Factory.Apart.ne_script {factory : Factory DeviceWorld}
    (apart : Factory.Apart place factory) : factory ≠ (Device.script place).factory := by
  rintro rfl
  exact (apart.creates {} ⟨""⟩ .null _ _ rfl).ne_script rfl

theorem Capability.apart_script {other : Nat} (different : other ≠ place) :
    (Capability.script other).Apart place where
  read _ placed := DeviceWorld.spares_setScript different placed _
  write _ placed _ := DeviceWorld.spares_setScript different placed _
  close _ placed := DeviceWorld.spares_setScript different placed _

theorem Capability.apart_echo (other : Nat) : (Capability.echo other).Apart place where
  read world placed := by
    show DeviceWorld.Spares place world (Capability.read (Capability.echo other) world).1
    simp only [Capability.echo]
    split <;> exact ⟨placed, rfl⟩
  write world placed value := by
    show DeviceWorld.Spares place world (Capability.write (Capability.echo other) world value).1
    simp only [Capability.echo]
    split <;> exact ⟨placed, rfl⟩
  close world placed := ⟨placed, rfl⟩

/-- Every other device is apart from the script. -/
theorem Device.apart_factory {device : Device} (different : device ≠ .script place) :
    Factory.Apart place device.factory where
  opens world placed actor config := by
    cases device with
    | script other =>
        exact DeviceWorld.spares_setScript (fun same => different (congrArg _ same)) placed _
    | broken message => exact .refl placed
    | inert => exact .refl placed
    | ready => exact .refl placed
    | echo => exact ⟨placed, rfl⟩
  creates world actor config after capability ran := by
    cases device with
    | script other =>
        cases ran
        exact Capability.apart_script fun same => different (congrArg _ same)
    | broken message => cases ran
    | inert =>
        cases ran
        exact ⟨fun _ => .refl, fun _ placed _ => .refl placed, fun _ => .refl⟩
    | ready =>
        cases ran
        exact ⟨fun _ => .refl, fun _ placed _ => .refl placed, fun _ => .refl⟩
    | echo =>
        cases ran
        exact Capability.apart_echo _

/-- Capabilities on the script, and others that are apart from it. -/
def Capability.Known (place : Nat) (capability : Capability DeviceWorld) : Prop :=
  capability = .script place ∨ capability.Apart place

/-- The factory of the script, or one that is apart from it. -/
def Factory.Known (place : Nat) (factory : Factory DeviceWorld) : Prop :=
  factory = (Device.script place).factory ∨ Factory.Apart place factory

/-! ## Handles of the script -/

open scoped Classical in
/-- The number of open handles of the script. -/
noncomputable def HandleTable.held (place : Nat) (opened : List (Handle × Capability DeviceWorld)) :
    Nat :=
  opened.countP fun entry => entry.2 = .script place

namespace HandleTable

variable {handle : Handle} {capability : Capability DeviceWorld}
  {opened : List (Handle × Capability DeviceWorld)}

theorem held_append (before after : List (Handle × Capability DeviceWorld)) :
    held place (before ++ after) = held place before + held place after :=
  List.countP_append

theorem held_cons_self (handle : Handle) (opened : List (Handle × Capability DeviceWorld)) :
    held place ((handle, .script place) :: opened) = held place opened + 1 :=
  List.countP_cons_of_pos (by simp)

theorem held_cons_of_apart (apart : capability.Apart place) (handle : Handle)
    (opened : List (Handle × Capability DeviceWorld)) :
    held place ((handle, capability) :: opened) = held place opened :=
  List.countP_cons_of_neg (by simpa using apart.ne_script)

/-- Closing capabilities one after the other adds up on the script. -/
theorem foldl_close (known : ∀ entry ∈ opened, entry.2.Known place) {world : DeviceWorld}
    (placed : place < world.scripts.length) :
    place < (opened.foldl (fun world entry => entry.2.close world) world).scripts.length ∧
    (opened.foldl (fun world entry => entry.2.close world) world).script place =
      { world.script place with closed := (world.script place).closed + held place opened } := by
  induction opened generalizing world with
  | nil => exact ⟨placed, rfl⟩
  | cons entry rest ih =>
      obtain ⟨handle, capability⟩ := entry
      have later := fun other member => known other (List.mem_cons_of_mem _ member)
      rw [List.foldl_cons]
      rcases known _ (List.mem_cons_self ..) with same | apart
      · obtain rfl : capability = .script place := same
        obtain ⟨remains, closed⟩ := Capability.script_close placed
        obtain ⟨last, all⟩ := ih later remains
        refine ⟨last, ?_⟩
        rw [all, closed, held_cons_self, Nat.add_right_comm, Nat.add_assoc]
      · obtain ⟨remains, spared⟩ := apart.close world placed
        obtain ⟨last, all⟩ := ih later remains
        refine ⟨last, ?_⟩
        rw [all, spared, held_cons_of_apart apart]

end HandleTable

namespace Context

variable {context : Context DeviceWorld} {handle : Handle}

/-- The script is there, and all open capabilities are on it or apart from it. -/
structure Shares (place : Nat) (context : Context DeviceWorld) : Prop where
  placed : place < context.world.scripts.length
  known : ∀ entry ∈ context.table.opened, entry.2.Known place

theorem OnScript.shares (h : context.OnScript place) : context.Shares place :=
  ⟨h.placed, fun entry member => Or.inl (h.opened entry member)⟩

/-- What an operation may open is on the script or apart from it. -/
def Offers (place : Nat) (registry : Registry DeviceWorld) : Call → Prop
  | .openCapability name _ =>
    ∀ factory, registry.factories.get? name = some factory → Factory.Known place factory
  | _ => True

/-- The handle is open, on the script. -/
def Holds (place : Nat) (context : Context DeviceWorld) (handle : Handle) : Prop :=
  context.table.find? handle = some (.script place)

section

open scoped Classical

/-- The value that an operation reads from the script. -/
noncomputable def taken (place : Nat) (context : Context DeviceWorld) : Call → List Value
  | .read handle =>
    if context.Holds place handle then (context.read handle).2.toOption.toList else []
  | _ => []

/-- The value that an operation writes to the script. -/
noncomputable def sent (place : Nat) (context : Context DeviceWorld) : Call → List Value
  | .write handle value =>
    if context.Holds place handle then
      (context.write handle value).2.toOption.toList.map fun _ => value
    else []
  | _ => []

/-- The configuration with which an operation opens the script. -/
noncomputable def configured (place : Nat) (context : Context DeviceWorld) : Call → List Value
  | .openCapability name config =>
    if context.registry.factories.get? name = some (Device.script place).factory then
      (context.openCapability name config).value.2.toOption.toList.map fun _ => config
    else []
  | _ => []

end

theorem eq_of_mem_configured {name : String} {config given : Value}
    (member : config ∈ context.configured place (.openCapability name given)) :
    config = given := by
  rw [configured] at member
  split at member
  · obtain ⟨_, -, rfl⟩ := List.mem_map.1 member
    rfl
  · cases member

/-- What an operation does to the script is what it answers. -/
structure Serves (place : Nat) (before : Context DeviceWorld) (call : Call)
    (after : Context DeviceWorld) : Prop extends Shares place after where
  reads : (before.world.script place).reads =
    before.taken place call ++ (after.world.script place).reads
  written : (after.world.script place).written =
    (before.world.script place).written ++ before.sent place call
  configs : (after.world.script place).configs =
    (before.world.script place).configs ++ before.configured place call
  writable : (after.world.script place).writable = (before.world.script place).writable
  /-- Every handle that was opened is open or was closed. -/
  held : before.table.Numbered →
    (after.world.script place).closed + HandleTable.held place after.table.opened =
      (before.world.script place).closed + HandleTable.held place before.table.opened +
        (before.configured place call).length

/-- An operation that leaves table and script alone. -/
theorem Shares.serves_still (h : context.Shares place) {call : Call} {after : Context DeviceWorld}
    (table : after.table = context.table) (spared : context.world.Spares place after.world)
    (taken : context.taken place call = []) (sent : context.sent place call = [])
    (configured : context.configured place call = []) : Serves place context call after where
  placed := spared.placed
  known := table ▸ h.known
  reads := by rw [taken, spared.script, List.nil_append]
  written := by rw [sent, spared.script, List.append_nil]
  configs := by rw [configured, spared.script, List.append_nil]
  writable := by rw [spared.script]
  held _ := by rw [configured, spared.script, table, List.length_nil, Nat.add_zero]

/-- A capability is opened, and the script knows of it if it is one on the script. -/
theorem Shares.serves_extended (h : context.Shares place) {name : String} {config : Value}
    {world : DeviceWorld} {capability : Capability DeviceWorld}
    (placed : place < world.scripts.length) (known : capability.Known place)
    (script : world.script place =
      { context.world.script place with
        configs := (context.world.script place).configs ++
          context.configured place (.openCapability name config) })
    (counted : HandleTable.held place [(⟨name, context.table.nextId⟩, capability)] =
      (context.configured place (.openCapability name config)).length) :
    Serves place context (.openCapability name config)
      { context with world, table := context.table.extend name capability } where
  placed := placed
  known entry member := by
    rcases HandleTable.mem_place member with rfl | old
    · exact known
    · exact h.known entry old
  reads := by rw [script]; rfl
  written := by rw [script]; exact (List.append_nil _).symm
  configs := by rw [script]
  writable := by rw [script]
  held numbered := by
    have extended : HandleTable.held place (context.table.extend name capability).opened =
        HandleTable.held place ([(⟨name, context.table.nextId⟩, capability)] ++
          context.table.opened) := (numbered.extend_perm name capability).countP_eq _
    rw [HandleTable.held_append, counted] at extended
    rw [script, extended, Nat.add_assoc, Nat.add_comm (_ : List Value).length]

theorem Shares.serves_openCapability (h : context.Shares place) {name : String} {config : Value}
    (offers : Offers place context.registry (.openCapability name config)) :
    Serves place context (.openCapability name config)
      (context.openCapability name config).value.1 := by
  have opened := context.openCapability_opened name config
  generalize answer : (context.openCapability name config).value = answered at opened
  cases opened with
  | unregistered none =>
      refine h.serves_still rfl (.refl h.placed) rfl rfl ?_
      rw [configured, none, if_neg nofun]
  | failed registered ran =>
      rcases offers _ registered with rfl | apart
      · cases ran
      · have spared := apart.opens context.world h.placed context.actor config
        rw [ran] at spared
        refine h.serves_still rfl spared rfl rfl ?_
        rw [configured, answer]
        exact ite_self _
  | created registered ran =>
      rcases offers _ registered with rfl | apart
      · cases ran
        have configured : context.configured place (.openCapability name config) = [config] := by
          rw [Context.configured, if_pos registered, answer]
          rfl
        refine h.serves_extended ((context.world.length_setScript place _).symm ▸ h.placed)
          (Or.inl rfl) ?_ ?_
        · rw [DeviceWorld.script_setScript h.placed, configured]
        · rw [configured]
          exact HandleTable.held_cons_self _ []
      · have spared := apart.opens context.world h.placed context.actor config
        rw [ran] at spared
        have created := apart.creates _ _ _ _ _ ran
        have configured : context.configured place (.openCapability name config) = [] := by
          rw [Context.configured, if_neg]
          rw [registered]
          exact fun same => apart.ne_script (Option.some.inj same)
        refine h.serves_extended spared.placed (Or.inr created) ?_ ?_
        · rw [spared.script, configured, List.append_nil]
        · rw [configured]
          exact HandleTable.held_cons_of_apart created _ []

theorem not_holds_of_none (missing : context.table.find? handle = none) :
    ¬context.Holds place handle := by
  rw [Holds, missing]
  nofun

theorem not_holds_of_apart {capability : Capability DeviceWorld}
    (found : context.table.find? handle = some capability) (apart : capability.Apart place) :
    ¬context.Holds place handle := by
  rw [Holds, found]
  exact fun same => apart.ne_script (Option.some.inj same)

theorem Shares.serves_read (h : context.Shares place) (handle : Handle) :
    Serves place context (.read handle) (context.read handle).1 := by
  cases found : context.table.find? handle with
  | none =>
      rw [(dead_of_find? found).read]
      exact h.serves_still rfl (.refl h.placed) (if_neg (not_holds_of_none found)) rfl rfl
  | some capability =>
      have reaches := reaches_of_find? found
      rcases h.known _ (HandleTable.mem_of_find? found) with same | apart
      · obtain rfl : capability = .script place := same
        cases left : (context.world.script place).reads with
        | nil =>
            have refused : context.read handle = (context, .error (.notReadable handle)) := by
              rw [reaches.read]
              exact if_neg (by simp [Capability.script, left])
            refine refused ▸ h.serves_still rfl (.refl h.placed) ?_ rfl rfl
            rw [taken, refused]
            exact ite_self _
        | cons value rest =>
            let drained : Script := { context.world.script place with reads := rest }
            have changed := DeviceWorld.script_setScript h.placed drained
            have answer : context.read handle =
                ({ context with world := context.world.setScript place drained }, .ok value) := by
              rw [reaches.read, if_pos (by simp [Capability.script, left])]
              simp only [Capability.script, Script.read, left]
              rfl
            have taken : context.taken place (.read handle) = [value] := by
              rw [Context.taken, if_pos (show context.Holds place handle from found), answer]
              rfl
            rw [answer]
            exact
              { placed := (context.world.length_setScript place _).symm ▸ h.placed
                known := h.known
                reads := by rw [changed, taken, left]; rfl
                written := by rw [changed]; exact (List.append_nil _).symm
                configs := by rw [changed]; exact (List.append_nil _).symm
                writable := by rw [changed]
                held := fun _ => by rw [changed]; rfl }
      · have spared := apart.read context.world h.placed
        have notHeld := not_holds_of_apart found apart
        rw [reaches.read]
        split
        · exact h.serves_still rfl spared (if_neg notHeld) rfl rfl
        · exact h.serves_still rfl (.refl h.placed) (if_neg notHeld) rfl rfl

theorem Shares.serves_write (h : context.Shares place) (handle : Handle) (value : Value) :
    Serves place context (.write handle value) (context.write handle value).1 := by
  cases found : context.table.find? handle with
  | none =>
      rw [(dead_of_find? found).write]
      exact h.serves_still rfl (.refl h.placed) rfl (if_neg (not_holds_of_none found)) rfl
  | some capability =>
      have reaches := reaches_of_find? found
      rcases h.known _ (HandleTable.mem_of_find? found) with same | apart
      · obtain rfl : capability = .script place := same
        by_cases writable : (context.world.script place).writable = true
        · let longer := (context.world.script place).write value
          have changed := DeviceWorld.script_setScript h.placed longer
          have answer : context.write handle value =
              ({ context with world := context.world.setScript place longer }, .ok ()) :=
            (reaches.write value).trans (if_pos writable)
          have sent : context.sent place (.write handle value) = [value] := by
            rw [Context.sent, if_pos (show context.Holds place handle from found), answer]
            rfl
          rw [answer]
          exact
            { placed := (context.world.length_setScript place _).symm ▸ h.placed
              known := h.known
              reads := by rw [changed]; rfl
              written := by rw [changed, sent]; rfl
              configs := by rw [changed]; exact (List.append_nil _).symm
              writable := by rw [changed]; rfl
              held := fun _ => by rw [changed]; rfl }
        · have refused : context.write handle value = (context, .error (.notWritable handle)) :=
            (reaches.write value).trans (if_neg writable)
          refine refused ▸ h.serves_still rfl (.refl h.placed) rfl ?_ rfl
          rw [sent, refused]
          exact ite_self _
      · have spared := apart.write context.world h.placed value
        have notHeld := not_holds_of_apart found apart
        rw [reaches.write]
        split
        · exact h.serves_still rfl spared rfl (if_neg notHeld) rfl
        · exact h.serves_still rfl (.refl h.placed) rfl (if_neg notHeld) rfl

/-- An operation that closes some of the open capabilities. -/
theorem Shares.serves_closed (h : context.Shares place) {call : Call} {after : Context DeviceWorld}
    {count : Nat} (placed : place < after.world.scripts.length)
    (closed : after.world.script place =
      { context.world.script place with
        closed := (context.world.script place).closed + count })
    (kept : ∀ entry ∈ after.table.opened, entry ∈ context.table.opened)
    (left : context.table.Numbered → HandleTable.held place context.table.opened =
      count + HandleTable.held place after.table.opened)
    (taken : context.taken place call = []) (sent : context.sent place call = [])
    (configured : context.configured place call = []) : Serves place context call after where
  placed := placed
  known entry member := h.known entry (kept entry member)
  reads := by rw [taken, closed, List.nil_append]
  written := by rw [sent, closed, List.append_nil]
  configs := by rw [configured, closed, List.append_nil]
  writable := by rw [closed]
  held numbered := by
    rw [configured, closed, left numbered, List.length_nil, Nat.add_zero, Nat.add_assoc]

theorem Shares.serves_close (h : context.Shares place) (handle : Handle) :
    Serves place context (.close handle) (context.close handle).value.1 := by
  cases found : context.table.find? handle with
  | none =>
      rw [(dead_of_find? found).close]
      exact h.serves_still rfl (.refl h.placed) rfl rfl rfl
  | some capability =>
      have there := HandleTable.mem_of_find? found
      have one : ∀ entry : Handle × Capability DeviceWorld, entry ∈ [(handle, capability)] →
          entry.2.Known place := fun entry member => by
        rw [List.mem_singleton.1 member]
        exact h.known _ there
      obtain ⟨placed, closed⟩ := HandleTable.foldl_close one h.placed
      rw [(reaches_of_find? found).close]
      refine h.serves_closed placed closed
        (fun entry member => (List.mem_filter.1 member).1) (fun numbered => ?_) rfl rfl rfl
      rw [← HandleTable.held_append]
      exact (numbered.perm_without there).countP_eq _

theorem Shares.serves_closeAll (h : context.Shares place) :
    Serves place context .closeAll context.closeAll.value.1 := by
  obtain ⟨placed, closed⟩ := HandleTable.foldl_close h.known h.placed
  rw [value_closeAll]
  exact h.serves_closed placed closed (fun _ member => by cases member) (fun _ => rfl) rfl rfl rfl

/-- What an operation does to a script that the context shares with others is what it answers. -/
theorem perform_serves (h : context.Shares place) (call : Call)
    (offers : Offers place context.registry call) :
    Serves place context call (context.perform call) := by
  cases call with
  | openCapability name config => exact h.serves_openCapability offers
  | canRead handle => exact h.serves_still rfl (.refl h.placed) rfl rfl rfl
  | canWrite handle => exact h.serves_still rfl (.refl h.placed) rfl rfl rfl
  | read handle => exact h.serves_read handle
  | write handle value => exact h.serves_write handle value
  | close handle => exact h.serves_close handle
  | closeAll => exact h.serves_closeAll

end Context

end Dataflow
