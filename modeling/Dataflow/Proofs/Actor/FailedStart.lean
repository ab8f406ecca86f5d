import Dataflow.Proofs.Actor.Release

/-!
# Starts that fail

An actor whose start fails is gone: it can neither be moved nor ended, so nothing is released for
it any more.  What becomes of the capabilities that its hook had opened is told by the record of
the world.

* `Start`, `Start.run`, `Start.hook?` — the ways to start an actor, and the hook that each of them
  runs.
* `Start.value_run` — a start does what its hook does, or refuses without running one.
* `ActorType.failed_start_abandons` — the capabilities that the hook had opened and closed again
  were closed once.  Those that it had left open are not closed, whatever the settings say.
-/

namespace Dataflow

variable {W σ : Type}

/-! ## Starts -/

/-- A way to start an actor. -/
inductive Start (W σ : Type) where
  /-- As a new one, with the hook for a configuration that is known to be one of the type. -/
  | begun (hook : Hook W σ)
  /-- As a new one, with a configuration. -/
  | configured (config : Value)
  /-- With the state of a snapshot. -/
  | restored (settings : Settings) (snapshot : Snapshot)

namespace Start

/-- Starts an actor in this way. -/
def run (type : ActorType W σ) (self : Instance W σ) :
    Start W σ → Logged (Instance W σ × Except LifecycleError Unit)
  | begun hook => ActorType.runHook "init" hook self
  | configured config => type.start self config
  | restored settings snapshot => type.restore settings self snapshot

/-- The hook that runs at a start, with its name and the fields that it finds; none if the
configuration is none of the type, or the snapshot cannot be restored. -/
def hook? (type : ActorType W σ) (self : Instance W σ) : Start W σ → Option (String × Hook W σ × σ)
  | begun hook => some ("init", hook, self.model)
  | configured config => (type.init config).map fun hook => ("init", hook, self.model)
  | restored settings snapshot =>
    if snapshot.actorType = type.name then
      match (type.managed.setState settings.rejectUnknownFields self.model snapshot.managed).value
      with
      | (model, .ok ()) => some ("did_migrate", type.didMigrate, model)
      | (_, .error _) => none
    else none

/-- The hook that is given, if one is, acts on the context through its operations alone. -/
def UsesContext : Start (Recorded W) σ → Prop
  | begun hook => hook.UsesContext
  | _ => True

variable {type : ActorType (Recorded W) σ} {self after : Instance (Recorded W) σ}
  {start : Start (Recorded W) σ} {model : σ}

theorem hook?_restored_of_ok {settings : Settings} {snapshot : Snapshot}
    (same : snapshot.actorType = type.name)
    (set : (type.managed.setState settings.rejectUnknownFields self.model
      snapshot.managed).value = (model, .ok ())) :
    (restored settings snapshot).hook? type self =
      some ("did_migrate", type.didMigrate, model) := by
  rw [hook?, if_pos same, set]

theorem hook?_restored_of_error {settings : Settings} {snapshot : Snapshot} {e : SnapshotError}
    (set : (type.managed.setState settings.rejectUnknownFields self.model
      snapshot.managed).value = (model, .error e)) :
    (restored settings snapshot).hook? type self = none := by
  rw [hook?, set, ite_self]

/-- A start does what its hook does, and nothing besides.  Without a hook it is refused. -/
theorem value_run (uses : type.UsesContext) (own : start.UsesContext)
    (self : Instance (Recorded W) σ) :
    (∃ name hook model, start.hook? type self = some (name, hook, model) ∧ hook.UsesContext ∧
      (start.run type self).value = hook.outcome name { self with model }) ∨
    start.hook? type self = none ∧ ∃ e, (start.run type self).value = (self, .error e) := by
  cases start with
  | begun hook => exact Or.inl ⟨"init", hook, self.model, rfl, own, ActorType.value_runHook own _ _⟩
  | configured config =>
      cases init : type.init config with
      | none =>
          refine Or.inr ⟨by rw [hook?, init]; rfl, .config self.actor, ?_⟩
          rw [run, ActorType.start, init]
          rfl
      | some hook =>
          exact Or.inl ⟨"init", hook, self.model, by rw [hook?, init]; rfl,
            uses.init config hook init, ActorType.value_start uses init self⟩
  | restored settings snapshot =>
      by_cases same : snapshot.actorType = type.name
      · rcases set : (type.managed.setState settings.rejectUnknownFields self.model
            snapshot.managed).value with ⟨model, e | _⟩
        · exact Or.inr ⟨hook?_restored_of_error set, .snapshot e,
            ActorType.restore_unread same set⟩
        · exact Or.inl ⟨"did_migrate", type.didMigrate, model, hook?_restored_of_ok same set,
            uses.didMigrate, (ActorType.value_restore same set).trans
              (ActorType.value_resume uses _)⟩
      · exact Or.inr ⟨by rw [hook?, if_neg same], _, ActorType.restore_mistyped same settings self⟩

end Start

namespace ActorType

variable {type : ActorType (Recorded W) σ} {self after : Instance (Recorded W) σ}
  {start : Start (Recorded W) σ} {e : LifecycleError}

/-- Nothing was opened for an actor that was neither started nor restored. -/
theorem Idle.blank (idle : type.Idle self) :
    self.context.world.created = 0 ∧ self.context.world.closed = [] := by
  induction idle with
  | created actor registry world ran =>
      rw [create] at ran
      split at ran
      · cases ran
      · cases ran
        exact ⟨rfl, rfl⟩
  | around _ model registry world ih => exact ih

theorem accounted_run (uses : type.UsesContext) (own : start.UsesContext)
    (h : self.context.Accounted) {result : Except LifecycleError Unit}
    (ran : (start.run type self).value = (after, result)) : after.context.Accounted := by
  rcases start.value_run uses own self with ⟨name, hook, model, -, hooked, same⟩ |
    ⟨-, e, same⟩
  · have found : ({ self with model } : Instance (Recorded W) σ).context.Accounted := h
    exact accounted_of_outcome hooked found (same.symm.trans ran)
  · cases same.symm.trans ran
    exact h

/-- What a start that failed leaves of an actor, and of the capabilities that its hook opened.
They are numbered in the order of opening, as their handles are. -/
structure Abandoned (type : ActorType (Recorded W) σ) (before : Instance (Recorded W) σ)
    (start : Start (Recorded W) σ) (after : Instance (Recorded W) σ) (e : LifecycleError) :
    Prop where
  /-- All capabilities of the actor were opened by the hook: there were none before. -/
  fresh : before.context.world.created = 0 ∧ before.context.world.closed = []
  /-- The actor is left, with everything that was opened for it and closed, as the hook left it. -/
  hooked : ∀ name hook model, start.hook? type before = some (name, hook, model) →
    hook.outcome name { before with model } = (after, .error e)
  /-- If no hook ran, it is left as it was. -/
  unhooked : start.hook? type before = none → after = before
  /-- The number of an open handle is that of its capability. -/
  numbered : ∀ entry ∈ after.context.table.opened,
    ∃ capability : Capability W, entry.2 = capability.recorded entry.1.id
  /-- No capability was closed twice. -/
  once : after.context.world.closed.Nodup
  /-- Those were closed that are not open any more. -/
  exactly : ∀ number, number ∈ after.context.world.closed ↔
    number < after.context.world.created ∧
      number ∉ after.context.openHandles.map Handle.id

/-- A start that fails closes nothing.  The capabilities that its hook had opened were closed if
the hook closed them, and then once, and the others were not. -/
theorem failed_start_abandons (uses : type.UsesContext) (own : start.UsesContext)
    (idle : type.Idle self) (failed : (start.run type self).value = (after, .error e)) :
    Abandoned type self start after e := by
  have accounted : after.context.Accounted := accounted_run uses own idle.accounted failed
  have ids : (after.context.openHandles.map Handle.id).Perm
      (after.context.table.opened.map fun entry => entry.1.id) :=
    (after.context.table.handles_perm.map Handle.id).trans (.of_eq List.map_map)
  have each : (after.context.world.closed ++ after.context.openHandles.map Handle.id).Perm
      (List.range after.context.world.created) := (ids.append_left _).trans accounted.closed
  have distinct := List.nodup_append.1 (each.nodup_iff.2 List.nodup_range)
  refine
    { fresh := idle.blank
      hooked := fun name hook model found => ?_
      unhooked := fun none => ?_
      numbered := accounted.recorded
      once := distinct.1
      exactly := fun number => ⟨fun closed => ⟨?_, fun still => ?_⟩, fun ⟨opened, shut⟩ => ?_⟩ }
  · rcases start.value_run uses own self with ⟨_, _, _, same, -, ran⟩ | ⟨none, -⟩
    · cases found.symm.trans same
      exact ran.symm.trans failed
    · cases found.symm.trans none
  · rcases start.value_run uses own self with ⟨_, _, _, same, -⟩ | ⟨-, _, ran⟩
    · cases none.symm.trans same
    · cases ran.symm.trans failed
      rfl
  · exact List.mem_range.1 (each.mem_iff.1 (List.mem_append_left _ closed))
  · exact distinct.2.2 number closed number still rfl
  · have known := each.mem_iff.2 (List.mem_range.2 opened)
    exact (List.mem_append.1 known).resolve_right shut

end ActorType

namespace Program

/-- A program that fails, whether it starts or resumes, with one capability closed again and
another one open. -/
def failing : Program where
  init := [.openCapability "first" "script" .null, .openCapability "second" "script" .null,
    .close "first", .fail "no"]
  didMigrate := [.openCapability "first" "script" .null, .openCapability "second" "script" .null,
    .close "first", .fail "no"]

/-- That program, when it was created. -/
def newborn : ProgramInstance (Recorded DeviceWorld) where
  model := {}
  context :=
    { table := { actor := ⟨"a"⟩ }
      registry := scripted.recorded
      world := { world := { scripts := [{}] } } }

theorem idle_newborn : failing.type.Idle newborn := .created ⟨"a"⟩ scripted { scripts := [{}] } rfl

/-- A snapshot of that program. -/
def beforehand : Snapshot where
  actorType := "Program"
  actor := ⟨"a"⟩
  managed := .obj [("stash", .arr []), ("vars", .obj [])]

/-- What is left of the program when it could not resume. -/
def abandoned : ProgramInstance (Recorded DeviceWorld) :=
  (failing.type.restore {} newborn beforehand).value.1

/-- The program had opened two capabilities when it failed, and only the first of them was
closed. -/
theorem failing_abandoned :
    (failing.type (W := Recorded DeviceWorld)).UsesContext ∧
    (Start.restored {} beforehand : Start (Recorded DeviceWorld) ProgramState).UsesContext ∧
    failing.type.Idle newborn ∧
    ((Start.restored {} beforehand).run failing.type newborn).value =
      (abandoned, .error (.hook ⟨"a"⟩ "did_migrate" ⟨"no", []⟩)) ∧
    failing.type.Abandoned newborn (.restored {} beforehand) abandoned
      (.hook ⟨"a"⟩ "did_migrate" ⟨"no", []⟩) ∧
    0 ∈ abandoned.context.world.closed ∧ 1 ∉ abandoned.context.world.closed := by
  have failed : ((Start.restored {} beforehand).run failing.type newborn).value =
      (abandoned, .error (.hook ⟨"a"⟩ "did_migrate" ⟨"no", []⟩)) := rfl
  have own :
      (Start.restored {} beforehand : Start (Recorded DeviceWorld) ProgramState).UsesContext :=
    trivial
  have law := ActorType.failed_start_abandons failing.usesContext own idle_newborn failed
  have created : abandoned.context.world.created = 2 := rfl
  have opened : abandoned.context.openHandles = [⟨"script", 1⟩] := rfl
  refine ⟨failing.usesContext, own, idle_newborn, failed, law, ?_, ?_⟩
  · rw [law.exactly, created, opened]
    decide
  · rw [law.exactly, created, opened]
    decide

/-- Though the settings say that what is left open is to be closed, neither a start nor a
restoration that failed has closed every capability that was opened. -/
theorem failing_leaks :
    failing.type.Idle newborn ∧ ({} : Settings).closeLeakedCapabilities = true ∧
    (failing.type.start newborn .null).value.2 =
      .error (.hook ⟨"a"⟩ "init" ⟨"no", []⟩) ∧
    ¬(failing.type.start newborn .null).value.1.context.world.closed.Perm
      (List.range (failing.type.start newborn .null).value.1.context.world.created) ∧
    (failing.type.restore {} newborn beforehand).value.2 =
      .error (.hook ⟨"a"⟩ "did_migrate" ⟨"no", []⟩) ∧
    ¬abandoned.context.world.closed.Perm (List.range abandoned.context.world.created) := by
  have started : (failing.type.start newborn .null).value.1.context.world.closed = [0] ∧
      (failing.type.start newborn .null).value.1.context.world.created = 2 := ⟨rfl, rfl⟩
  have resumed : abandoned.context.world.closed = [0] ∧
      abandoned.context.world.created = 2 := ⟨rfl, rfl⟩
  refine ⟨idle_newborn, rfl, rfl, ?_, rfl, ?_⟩
  · rw [started.1, started.2]
    decide
  · rw [resumed.1, resumed.2]
    decide

end Program

end Dataflow
