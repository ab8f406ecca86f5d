import Dataflow.Proofs.Capability.Annals
import Dataflow.Proofs.Capability.Service

/-!
# One script, many handles

A script can be registered under several names and in several registries, and any number of actors
open it, each through a table of its own.  All their handles act on the one script.

* `Sharing`, `Sharing.run` — a script in use, with what was pushed to it, what its handles took
  from it and wrote to it, and the configurations it was opened with.
* `Sharing.Sound` — these records and the state of the script agree; every step keeps this
  (`Sound.record`).
* `Sharing.run_faithful` — the script is one queue and one log for all of its handles.  A handle
  reads or writes if it is open and the script is ready, and otherwise changes nothing.
-/

namespace Dataflow

/-! ## Registries with the script -/

/-- All that is registered is the script, under any names, and factories apart from it. -/
def Registry.Known (place : Nat) (registry : Registry DeviceWorld) : Prop :=
  ∀ name factory, registry.factories.get? name = some factory → Factory.Known place factory

namespace Registry

variable {place : Nat} {registry : Registry DeviceWorld}

theorem known_empty (place : Nat) : Known place {} := fun _ _ found => by cases found

theorem Known.register (h : registry.Known place) {factory : Factory DeviceWorld}
    (known : Factory.Known place factory) (name : String) :
    (registry.register name factory).value.1.Known place := by
  intro other found there
  rw [Registry.register] at there
  split at there
  · exact h other found there
  · simp only [Logged.value_bind, Logged.value_pure] at there
    by_cases same : other = name
    · subst same
      rw [KeyMap.get?_insert_self] at there
      exact Option.some.inj there ▸ known
    · rw [KeyMap.get?_insert_of_ne _ same] at there
      exact h other found there

/-- Devices are the script, or apart from it. -/
theorem Known.registerDevice (h : registry.Known place) (name : String) (device : Device) :
    (registry.register name device.factory).value.1.Known place := by
  refine h.register ?_ name
  by_cases same : device = .script place
  · exact Or.inl (congrArg Device.factory same)
  · exact Or.inr (Device.apart_factory same)

theorem Known.offers (h : registry.Known place) (call : Context.Call) :
    Context.Offers place registry call := by
  cases call with
  | openCapability name config => exact h name
  | _ => trivial

end Registry

/-! ## Handles of the script -/

namespace Context

variable {place : Nat} {context : Context DeviceWorld} {handle : Handle}

/-- A handle of the script reads while it is open and something is left, and writes while it is
open and the script accepts that.  Refused, it changes nothing. -/
structure Answers (place : Nat) (context : Context DeviceWorld) (handle : Handle) : Prop where
  canRead : context.canRead handle = true ↔
    handle ∈ context.openHandles ∧ (context.world.script place).reads ≠ []
  canWrite : context.canWrite handle = true ↔
    handle ∈ context.openHandles ∧ (context.world.script place).writable = true
  read : ∀ value, (context.read handle).2 = .ok value ↔
    handle ∈ context.openHandles ∧ (context.world.script place).reads.head? = some value
  write : ∀ value, (context.write handle value).2 = .ok () ↔
    handle ∈ context.openHandles ∧ (context.world.script place).writable = true
  readRefused : ∀ e, (context.read handle).2 = .error e → (context.read handle).1 = context
  writeRefused : ∀ value e, (context.write handle value).2 = .error e →
    (context.write handle value).1 = context

theorem answers_closed (missing : context.table.find? handle = none) :
    context.Answers place handle := by
  have absent : handle ∉ context.openHandles := HandleTable.find?_eq_none_iff.1 missing
  have dead := dead_of_find? missing
  exact
    { canRead := by simp [dead.canRead, absent]
      canWrite := by simp [dead.canWrite, absent]
      read := fun value => by simp [dead.read, absent]
      write := fun value => by simp [dead.write, absent]
      readRefused := fun e _ => by rw [dead.read]
      writeRefused := fun value e _ => by rw [dead.write] }

theorem Holds.answers (h : context.Holds place handle) : context.Answers place handle := by
  have there : handle ∈ context.openHandles :=
    HandleTable.mem_handles.2 (List.mem_map_of_mem (HandleTable.mem_of_find? h))
  have reaches := reaches_of_find? h
  refine
    { canRead := by simp [reaches.canRead, there, Capability.script]
      canWrite := by simp [reaches.canWrite, there, Capability.script]
      read := fun value => ?_
      write := fun value => ?_
      readRefused := fun e => ?_
      writeRefused := fun value e => ?_ }
  · rw [reaches.read]
    cases left : (context.world.script place).reads with
    | nil => simp [Capability.script, left]
    | cons next rest =>
        simp [Capability.script, Script.read, left, there, Except.mapError]
  · rw [reaches.write]
    cases writable : (context.world.script place).writable <;>
      simp [Capability.script, writable, there, Except.mapError]
  · rw [reaches.read]
    cases left : (context.world.script place).reads with
    | nil => simp [Capability.script, left]
    | cons next rest => simp [Capability.script, Script.read, left, Except.mapError]
  · rw [reaches.write]
    cases writable : (context.world.script place).writable <;>
      simp [Capability.script, writable, Except.mapError]

/-- The annals of a table, seen with another registry and in another world. -/
def Annals.within {W : Type} (annals : Annals W) (registry : Registry W) (world : W) : Annals W :=
  { annals with context := { annals.context with registry, world } }

end Context

/-! ## A script in use -/

/-- A script in use through the tables of any number of actors. -/
structure Sharing where
  world : DeviceWorld
  tables : List (Context.Annals DeviceWorld) := []
  /-- The values that were given to the script to be read. -/
  pushed : List Value := []
  /-- The values that were read, through any handle. -/
  taken : List Value := []
  /-- The values that were written, through any handle. -/
  sent : List Value := []
  /-- The configurations with which the script was opened, through any table. -/
  configured : List Value := []
  /-- Whether the script was last told to accept writes. -/
  writable : Bool := false

namespace Sharing

/-- Something that happens around the script. -/
inductive Step where
  /-- The script is given a value to be read. -/
  | push (value : Value)
  /-- The script is told whether to accept writes. -/
  | setWritable (writable : Bool)
  /-- An actor is given a table of its own. -/
  | bind (actor : ActorRef)
  /-- An operation on a table, whose actor finds the registry as it is at that time. -/
  | call (table : Nat) (registry : Registry DeviceWorld) (call : Context.Call)
  /-- The rest of the world changes. -/
  | elsewhere (change : DeviceWorld → DeviceWorld)

/-- What is opened is the script or apart from it, and so is what changes elsewhere. -/
def Step.Valid (place : Nat) : Step → Prop
  | call _ registry _ => registry.Known place
  | elsewhere change =>
    ∀ world : DeviceWorld, place < world.scripts.length → world.Spares place (change world)
  | _ => True

/-- An operation on the table of these annals, the one with the given number. -/
noncomputable def serve (place : Nat) (sharing : Sharing) (table : Nat)
    (annals : Context.Annals DeviceWorld) (call : Context.Call) : Sharing :=
  let after := annals.record (.call call)
  { sharing with
    world := after.context.world
    tables := sharing.tables.set table after
    taken := sharing.taken ++ annals.context.taken place call
    sent := sharing.sent ++ annals.context.sent place call
    configured := sharing.configured ++ annals.context.configured place call }

/-- The script in use, after a step. -/
noncomputable def record (place : Nat) (sharing : Sharing) : Step → Sharing
  | .push value =>
    { sharing with
      world := sharing.world.setScript place ((sharing.world.script place).push value)
      pushed := sharing.pushed ++ [value] }
  | .setWritable writable =>
    { sharing with
      world := sharing.world.setScript place { sharing.world.script place with writable }
      writable }
  | .bind actor =>
    let context : Context DeviceWorld :=
      { table := { actor }, registry := {}, world := sharing.world }
    { sharing with tables := sharing.tables ++ [{ context }] }
  | .call table registry call =>
    match sharing.tables[table]? with
    | none => sharing
    | some annals => sharing.serve place table (annals.within registry sharing.world) call
  | .elsewhere change => { sharing with world := change sharing.world }

/-- The script in use, after some steps. -/
noncomputable def run (place : Nat) (sharing : Sharing) (steps : List Step) : Sharing :=
  steps.foldl (record place) sharing

/-- The number of open handles of the script, in all tables. -/
noncomputable def held (place : Nat) (sharing : Sharing) : Nat :=
  HandleTable.held place (sharing.tables.flatMap fun annals => annals.context.table.opened)

/-- The records agree with the script, and the tables hold what they are known to hold. -/
structure Sound (place : Nat) (sharing : Sharing) : Prop where
  placed : place < sharing.world.scripts.length
  reads : sharing.pushed = sharing.taken ++ (sharing.world.script place).reads
  written : (sharing.world.script place).written = sharing.sent
  configs : (sharing.world.script place).configs = sharing.configured
  writable : (sharing.world.script place).writable = sharing.writable
  closed : (sharing.world.script place).closed + sharing.held place = sharing.configured.length
  annals : ∀ annals ∈ sharing.tables, annals.Sound
  known : ∀ annals ∈ sharing.tables, ∀ entry ∈ annals.context.table.opened, entry.2.Known place

variable {place : Nat} {sharing : Sharing}

theorem sound_new {world : DeviceWorld} (placed : place < world.scripts.length)
    (fresh : world.script place = {}) : Sound place { world } where
  placed := placed
  reads := by rw [fresh]; rfl
  written := by rw [fresh]
  configs := by rw [fresh]
  writable := by rw [fresh]
  closed := by rw [fresh]; rfl
  annals _ member := by cases member
  known _ member := by cases member

/-! ## Every step keeps the records -/

/-- One table among the others. -/
theorem exists_of_getElem? {annals : Context.Annals DeviceWorld} {table : Nat}
    (found : sharing.tables[table]? = some annals) (changed : Context.Annals DeviceWorld) :
    ∃ before after, sharing.tables = before ++ annals :: after ∧
      sharing.tables.set table changed = before ++ changed :: after := by
  obtain ⟨bound, rfl⟩ := List.getElem?_eq_some_iff.1 found
  obtain ⟨before, after, split, -, set⟩ := List.exists_of_set bound
  exact ⟨before, after, split, set⟩

theorem Sound.serve (h : sharing.Sound place) {table : Nat} {annals : Context.Annals DeviceWorld}
    (found : sharing.tables[table]? = some annals) {registry : Registry DeviceWorld}
    (known : registry.Known place) (call : Context.Call) :
    (sharing.serve place table (annals.within registry sharing.world) call).Sound place := by
  have there := List.mem_of_getElem? found
  have sound : (annals.within registry sharing.world).Sound := (h.annals annals there).still rfl
  have shares : (annals.within registry sharing.world).context.Shares place :=
    ⟨h.placed, h.known annals there⟩
  have serves := Context.perform_serves shares call (known.offers call)
  generalize within : annals.within registry sharing.world = before at sound shares serves
  have world : before.context.world = sharing.world := by rw [← within]; rfl
  have opened : before.context.table = annals.context.table := by rw [← within]; rfl
  obtain ⟨earlier, later, split, set⟩ := exists_of_getElem? found (before.record (.call call))
  have counted := serves.held sound.numbered
  have whole := h.closed
  have others : ∀ other, other ∈ sharing.tables.set table (before.record (.call call)) →
      other = before.record (.call call) ∨ other ∈ sharing.tables := fun other member =>
    (List.mem_or_eq_of_mem_set member).symm
  exact
    { placed := serves.placed
      reads := by
        show sharing.pushed = sharing.taken ++ before.context.taken place call ++ _
        rw [h.reads, List.append_assoc]
        exact congrArg _ (world ▸ serves.reads)
      written := serves.written.trans (by rw [world, h.written]; rfl)
      configs := serves.configs.trans (by rw [world, h.configs]; rfl)
      writable := serves.writable.trans (by rw [world, h.writable]; rfl)
      closed := by
        rw [world, opened] at counted
        simp only [held, split, List.flatMap_append, List.flatMap_cons,
          HandleTable.held_append] at whole
        simp only [held, Sharing.serve, set, List.flatMap_append, List.flatMap_cons,
          HandleTable.held_append, List.length_append]
        show ((before.context.perform call).world.script place).closed +
          (_ + (HandleTable.held place (before.context.perform call).table.opened + _)) = _
        omega
      annals := fun other member => by
        rcases others other member with rfl | old
        · exact sound.call call
        · exact h.annals other old
      known := fun other member => by
        rcases others other member with rfl | old
        · exact serves.known
        · exact h.known other old }

/-- The script is changed from outside, but neither opened nor closed, nor what was written. -/
theorem Sound.change (h : sharing.Sound place) {script : Script} {pushed : List Value}
    {writable : Bool} (reads : pushed = sharing.taken ++ script.reads)
    (accepts : script.writable = writable)
    (written : script.written = (sharing.world.script place).written)
    (configs : script.configs = (sharing.world.script place).configs)
    (closed : script.closed = (sharing.world.script place).closed) :
    ({ sharing with world := sharing.world.setScript place script, pushed, writable } :
      Sharing).Sound place := by
  have changed := DeviceWorld.script_setScript h.placed script
  exact
    { placed := (sharing.world.length_setScript place script).symm ▸ h.placed
      reads := by rw [changed]; exact reads
      written := by rw [changed, written]; exact h.written
      configs := by rw [changed, configs]; exact h.configs
      writable := by rw [changed]; exact accepts
      closed := by rw [changed, closed]; exact h.closed
      annals := h.annals
      known := h.known }

theorem Sound.bind (h : sharing.Sound place) (actor : ActorRef) :
    (sharing.record place (.bind actor)).Sound place where
  placed := h.placed
  reads := h.reads
  written := h.written
  configs := h.configs
  writable := h.writable
  closed := by
    have whole := h.closed
    simp only [held, record, List.flatMap_append, HandleTable.held_append] at whole ⊢
    exact whole
  annals annals member := by
    rcases List.mem_append.1 member with old | new
    · exact h.annals annals old
    · rw [List.mem_singleton.1 new]
      exact Context.Annals.sound_new actor {} sharing.world
  known annals member := by
    rcases List.mem_append.1 member with old | new
    · exact h.known annals old
    · rw [List.mem_singleton.1 new]
      exact fun _ there => by cases there

theorem Sound.elsewhere (h : sharing.Sound place) {change : DeviceWorld → DeviceWorld}
    (spared : sharing.world.Spares place (change sharing.world)) :
    (sharing.record place (.elsewhere change)).Sound place where
  placed := spared.placed
  reads := h.reads.trans (by rw [← spared.script]; rfl)
  written := by
    rw [record, spared.script]
    exact h.written
  configs := by
    rw [record, spared.script]
    exact h.configs
  writable := by
    rw [record, spared.script]
    exact h.writable
  closed := by
    rw [record, spared.script]
    exact h.closed
  annals := h.annals
  known := h.known

theorem Sound.record (h : sharing.Sound place) {step : Step} (valid : step.Valid place) :
    (sharing.record place step).Sound place := by
  cases step with
  | push value =>
      refine h.change ?_ h.writable rfl rfl rfl
      rw [h.reads, List.append_assoc]
      rfl
  | setWritable writable => exact h.change h.reads rfl rfl rfl rfl
  | bind actor => exact h.bind actor
  | call table registry call =>
      cases found : sharing.tables[table]? with
      | none =>
          simp only [Sharing.record, found]
          exact h
      | some annals =>
          simp only [Sharing.record, found]
          exact h.serve found valid call
  | elsewhere change => exact h.elsewhere (valid _ h.placed)

theorem Sound.run (h : sharing.Sound place) {steps : List Step}
    (valid : ∀ step ∈ steps, step.Valid place) : (sharing.run place steps).Sound place := by
  induction steps generalizing sharing with
  | nil => exact h
  | cons step rest ih =>
      exact ih (h.record (valid step (List.mem_cons_self ..)))
        fun later member => valid later (List.mem_cons_of_mem _ member)

/-! ## One queue, one log -/

/-- The script is one queue and one log for all of its handles. -/
structure Faithful (place : Nat) (sharing : Sharing) : Prop where
  /-- Nothing that was pushed is lost, doubled or out of order. -/
  reads : sharing.taken ++ (sharing.world.script place).reads = sharing.pushed
  written : (sharing.world.script place).written = sharing.sent
  configs : (sharing.world.script place).configs = sharing.configured
  opened : (sharing.world.script place).opened = sharing.configured.length
  writable : (sharing.world.script place).writable = sharing.writable
  closed_le : (sharing.world.script place).closed ≤ (sharing.world.script place).opened
  /-- What was opened and not closed is open. -/
  held : (sharing.world.script place).opened - (sharing.world.script place).closed =
    sharing.held place
  /-- A handle that the script was opened under answers for it while it is open.  Afterwards it is
  refused, and so is every other handle that is not open. -/
  answers : ∀ annals ∈ sharing.tables, ∀ handle,
    (handle, some (Capability.script place)) ∈ annals.opened ∨
        handle ∉ annals.context.openHandles →
      ∀ registry, (annals.within registry sharing.world).context.Answers place handle

theorem Sound.faithful (h : sharing.Sound place) : sharing.Faithful place := by
  have opened : (sharing.world.script place).opened = sharing.configured.length :=
    congrArg List.length h.configs
  have closed := h.closed
  exact
    { reads := h.reads.symm
      written := h.written
      configs := h.configs
      opened := opened
      writable := h.writable
      closed_le := by omega
      held := by omega
      answers := fun annals member handle ours registry => by
        have sound := h.annals annals member
        by_cases there : handle ∈ annals.context.openHandles
        · have opened := ours.resolve_right (not_not_intro there)
          have unclosed := (sound.mem_handles.1 (HandleTable.mem_handles.1 there)).2
          have holds : (annals.within registry sharing.world).context.Holds place handle :=
            sound.numbered.find?_of_mem (sound.mem_opened.2 ⟨opened, unclosed⟩)
          exact holds.answers
        · exact Context.answers_closed (HandleTable.find?_eq_none_iff.2 there) }

/-- However a script is used, it is one queue and one log for all of its handles. -/
theorem run_faithful {world : DeviceWorld} (placed : place < world.scripts.length)
    (fresh : world.script place = {}) {steps : List Step}
    (valid : ∀ step ∈ steps, step.Valid place) : (run place { world } steps).Faithful place :=
  ((sound_new placed fresh).run valid).faithful

/-! ## Two tables -/

/-- Two names for one script, and one for a device that has nothing to do with it. -/
def offered : Registry DeviceWorld :=
  let http := (({} : Registry DeviceWorld).register "net.http" (Device.script 0).factory).value.1
  let both := (http.register "log" (Device.script 0).factory).value.1
  (both.register "echo" Device.echo.factory).value.1

theorem known_offered : offered.Known 0 :=
  (((Registry.known_empty 0).registerDevice "net.http" (.script 0)).registerDevice "log"
    (.script 0)).registerDevice "echo" .echo

/-- Two actors take turns at a script, under different names; one of them closes its handle and
uses it once more. -/
def turns : List Step :=
  [.bind ⟨"a"⟩, .bind ⟨"b"⟩, .push (.int 1), .push (.int 2), .push (.int 3),
   .call 0 offered (.openCapability "net.http" .null),
   .call 1 offered (.openCapability "echo" .null),
   .call 1 offered (.openCapability "log" (.int 7)),
   .call 1 offered (.read ⟨"log", 1⟩), .call 0 offered (.read ⟨"net.http", 0⟩),
   .call 0 offered (.write ⟨"net.http", 0⟩ (.int 8)), .setWritable true,
   .call 0 offered (.write ⟨"net.http", 0⟩ (.int 9)),
   .call 0 offered (.close ⟨"net.http", 0⟩), .call 0 offered (.read ⟨"net.http", 0⟩)]

/-- The values leave the script in turn, and the handle that was closed takes none. -/
theorem turns_faithful :
    (run 0 { world := { scripts := [{}] } } turns).Faithful 0 ∧
    ((run 0 { world := { scripts := [{}] } } turns).world.script 0).reads = [.int 3] ∧
    ((run 0 { world := { scripts := [{}] } } turns).world.script 0).written = [.int 9] ∧
    ((run 0 { world := { scripts := [{}] } } turns).world.script 0).closed = 1 := by
  have valid : ∀ step ∈ turns, step.Valid 0 := by
    intro step member
    simp only [turns, List.mem_cons, List.not_mem_nil, or_false] at member
    rcases member with rfl | rfl | rfl | rfl | rfl | rfl | rfl | rfl | rfl | rfl | rfl | rfl | rfl |
      rfl | rfl <;> first | exact known_offered | trivial
  exact ⟨run_faithful (by decide) rfl valid, rfl, rfl, rfl⟩

end Sharing

end Dataflow
