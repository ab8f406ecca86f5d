import Dataflow.Program.Basic
import Dataflow.Capability.Device
import Dataflow.Proofs.Actor.Site
import Dataflow.Proofs.Capability.Recorded

/-!
# Releasing capabilities

What becomes of the capabilities that an actor leaves open.  Actors are followed from their creation
on, through any sequence of operations and in surroundings that change; the record of the world
tells what was opened and closed for them.

* `ActorType.UsesContext` — the code of a type acts on the context through its operations alone.
  That is all that is known of it.
* `ActorType.Idle`, `ActorType.Lived` — actors that were created, and actors that were started or
  restored and then lived on.
* `ActorType.lived_releases` — a move and an end release what the hook left open, if the settings
  say so, and nothing otherwise; no other operation closes anything by itself.  The answer is that
  of the hook in any case.
-/

namespace Dataflow

variable {W σ : Type}

/-! ## Code that works on a context -/

/-- The hook acts on the context through its operations alone. -/
def Hook.UsesContext (hook : Hook (Recorded W) σ) : Prop :=
  ∀ self : Instance (Recorded W) σ, self.context.Reached (hook self).value.1.context

/-- What a hook leaves behind and answers, its failure being named after it. -/
def Hook.outcome (name : String) (hook : Hook W σ) (self : Instance W σ) :
    Instance W σ × Except LifecycleError Unit :=
  ((hook self).value.1, (hook self).value.2.mapError (.hook self.actor name))

/-- The instance with other fields, in other surroundings. -/
def Instance.amid (self : Instance (Recorded W) σ) (model : σ) (registry : Registry W)
    (world : W) : Instance (Recorded W) σ :=
  { model, context := self.context.amid registry world }

namespace ActorType

/-- All code of the type acts on the context through its operations alone. -/
structure UsesContext (type : ActorType (Recorded W) σ) : Prop where
  body : ∀ action ∈ type.actions, ∀ (self : Instance (Recorded W) σ) values,
    self.context.Reached (action.body self values).value.1.context
  onException : ∀ (self : Instance (Recorded W) σ) name reason,
    self.context.Reached (type.onException self name reason).value.1.context
  init : ∀ config hook, type.init config = some hook → hook.UsesContext
  willMigrate : type.willMigrate.UsesContext
  didMigrate : type.didMigrate.UsesContext
  willEnd : type.willEnd.UsesContext

/-- One answer of the actor to tokens: by the body of an action, or by the handler of exception
tokens. -/
inductive Answers (type : ActorType W σ) : Instance W σ → Instance W σ → Prop
  | body {action : Action (Instance W σ)} (listed : action ∈ type.actions) (self : Instance W σ)
      (values : List Value) : Answers type self (action.body self values).value.1
  | handler (self : Instance W σ) (name reason : String) :
      Answers type self (type.onException self name reason).value.1

variable {type : ActorType (Recorded W) σ} {self : Instance (Recorded W) σ}

/-! ## Lives -/

/-- An actor that was created, and neither started nor restored. -/
inductive Idle (type : ActorType (Recorded W) σ) : Instance (Recorded W) σ → Prop
  | created {self : Instance (Recorded W) σ} (actor : ActorRef) (registry : Registry W)
      (world : W) (ran : (type.create actor registry.recorded { world }).value = .ok self) :
      Idle type self
  | around {self : Instance (Recorded W) σ} (idle : Idle type self) (model : σ)
      (registry : Registry W) (world : W) : Idle type (self.amid model registry world)

/-- An actor that was started or restored, and then went through any operations. -/
inductive Lived (type : ActorType (Recorded W) σ) : Instance (Recorded W) σ → Prop
  | started {self after : Instance (Recorded W) σ} (idle : Idle type self) (config : Value)
      (ran : (type.start self config).value = (after, .ok ())) : Lived type after
  | restored {self after : Instance (Recorded W) σ} (idle : Idle type self) (settings : Settings)
      (snapshot : Snapshot)
      (ran : (type.restore settings self snapshot).value = (after, .ok ())) : Lived type after
  | fired {self : Instance (Recorded W) σ} (lived : Lived type self) {P : Type} [PortAccess P]
      (limit : Nat) (ports : P) {outcome : Outcome (Instance (Recorded W) σ) P FireReport}
      (ran : (type.fire limit self ports).value = some outcome) : Lived type outcome.state
  | prepared {self : Instance (Recorded W) σ} (lived : Lived type self) (settings : Settings) :
      Lived type (type.prepareMove settings self).value.1
  | resumed {self : Instance (Recorded W) σ} (lived : Lived type self) :
      Lived type (type.resume self).value.1
  | around {self : Instance (Recorded W) σ} (lived : Lived type self) (model : σ)
      (registry : Registry W) (world : W) : Lived type (self.amid model registry world)

/-! ## Hooks -/

/-- A hook is run without anything else being done. -/
theorem value_runHook {hook : Hook (Recorded W) σ} (uses : hook.UsesContext) (name : String)
    (self : Instance (Recorded W) σ) :
    (runHook name hook self).value = hook.outcome name self := by
  have actor : (hook self).value.1.actor = self.actor := (uses self).actor
  rw [runHook, Logged.value_bind, Hook.outcome, ← actor]
  rfl

/-- What follows on a hook after which no handle should be open. -/
structure Settled (settings : Settings)
    (hooked after : Instance (Recorded W) σ × Except LifecycleError Unit) : Prop where
  /-- The answer is that of the hook. -/
  answer : after.2 = hooked.2
  /-- Nothing is left open, and everything that was ever opened was closed once. -/
  released : settings.closeLeakedCapabilities = true →
    after.1.context.openHandles = [] ∧
      after.1.context.world.closed.Perm (List.range after.1.context.world.created)
  /-- Besides that nothing is done. -/
  kept : settings.closeLeakedCapabilities = true → after.1.model = hooked.1.model ∧
    after.1.context.world.created = hooked.1.context.world.created
  /-- Everything is left as the hook left it. -/
  left : settings.closeLeakedCapabilities = false → after.1 = hooked.1

theorem value_settleHandles_off {settings : Settings}
    (off : settings.closeLeakedCapabilities = false) (hook : String)
    (self : Instance (Recorded W) σ) : (settleHandles settings hook self).value = self := by
  rw [settleHandles]
  split
  · rfl
  · simp [off]

theorem settleHandles_on {settings : Settings} (on : settings.closeLeakedCapabilities = true)
    (hook : String) (h : self.context.Accounted) :
    (settleHandles settings hook self).value.context.openHandles = [] ∧
    (settleHandles settings hook self).value.model = self.model ∧
    (settleHandles settings hook self).value.context.world.created =
      self.context.world.created := by
  rw [settleHandles]
  split
  · rename_i none
    exact ⟨none, rfl, rfl⟩
  · simp only [on, if_true, Logged.value_bind, Logged.value_pure]
    refine ⟨?_, trivial, h.created_closeAll⟩
    rw [Context.value_closeAll]
    rfl

theorem accounted_settleHandles (h : self.context.Accounted) (settings : Settings)
    (hook : String) : (settleHandles settings hook self).value.context.Accounted := by
  rw [settleHandles]
  split
  · exact h
  · cases on : settings.closeLeakedCapabilities with
    | false => simpa using h
    | true => simpa using h.closeAll

theorem value_runReleasingHook {hook : Hook (Recorded W) σ} (uses : hook.UsesContext)
    (settings : Settings) (name : String) (self : Instance (Recorded W) σ) :
    (runReleasingHook settings name hook self).value =
      ((settleHandles settings name (hook.outcome name self).1).value,
        (hook.outcome name self).2) := by
  rw [runReleasingHook, Logged.value_bind, value_runHook uses]
  rfl

theorem accounted_runReleasingHook {hook : Hook (Recorded W) σ} (uses : hook.UsesContext)
    (h : self.context.Accounted) (settings : Settings) (name : String) :
    (runReleasingHook settings name hook self).value.1.context.Accounted := by
  rw [value_runReleasingHook uses]
  exact accounted_settleHandles ((uses self).accounted h) settings name

theorem settled_runReleasingHook {hook : Hook (Recorded W) σ} (uses : hook.UsesContext)
    (h : self.context.Accounted) (settings : Settings) (name : String) :
    Settled settings (hook.outcome name self)
      (runReleasingHook settings name hook self).value := by
  have accounted := accounted_runReleasingHook uses h settings name
  rw [value_runReleasingHook uses] at accounted ⊢
  have hooked : (hook.outcome name self).1.context.Accounted := (uses self).accounted h
  refine ⟨rfl, fun on => ?_, fun on => (settleHandles_on on name hooked).2,
    fun off => value_settleHandles_off off _ _⟩
  have none := (settleHandles_on on name hooked).1
  exact ⟨none, accounted.all_closed none⟩

/-! ## Firing -/

/-- All that firing does to an actor is done by its answers. -/
theorem fire_answers {W : Type} {type : ActorType W σ} {self : Instance W σ} {P : Type}
    [PortAccess P] {limit : Nat} {ports : P} {outcome : Outcome (Instance W σ) P FireReport}
    (ran : (type.fire limit self ports).value = some outcome) :
    Relation.ReflTransGen type.Answers self outcome.state := by
  -- the call is compared with itself
  let states : Instance W σ → Instance W σ → Prop := fun first second =>
    first = second ∧ Relation.ReflTransGen type.Answers self first
  have access : PortAccess.Alike (P := P) (Q := P) (type.behaviour self.actor).actor Eq := by
    constructor <;> (rintro p - rfl; intros; exact ⟨rfl, rfl⟩)
  have respects : (type.behaviour self.actor).Respects states :=
    { actions := fun action listed =>
        { guard := fun same => congrArg action.open? same.1
          inputGuard := fun same values => congrArg (action.accepts · values) same.1
          body := fun {first second} same values => by
            obtain ⟨rfl, reached⟩ := same
            exact ⟨⟨rfl, reached.tail (.body listed first values)⟩, rfl⟩ }
      onException := fun {first second} same name reason => by
        obtain ⟨rfl, reached⟩ := same
        exact ⟨⟨rfl, reached.tail (.handler first name reason)⟩, rfl⟩ }
  have alike := Behaviour.fire_alike access respects limit (s := self) (t := self) (p := ports)
    (q := ports) ⟨rfl, .refl⟩ rfl
  have ran' : ((type.behaviour self.actor).fire limit self ports).value = some outcome := ran
  rw [ran'] at alike
  cases alike with
  | finished both => exact both.state.2

theorem UsesContext.reached_of_answers (uses : type.UsesContext)
    {after : Instance (Recorded W) σ}
    (answers : Relation.ReflTransGen type.Answers self after) :
    self.context.Reached after.context := by
  induction answers with
  | refl => exact .refl
  | tail _ answer ih =>
      cases answer with
      | body listed => exact ih.trans (uses.body _ listed _ _)
      | handler => exact ih.trans (uses.onException _ _ _)

/-! ## Every actor is accounted for -/

theorem Idle.accounted (idle : type.Idle self) : self.context.Accounted := by
  induction idle with
  | created actor registry world ran =>
      rw [create] at ran
      split at ran
      · cases ran
      · cases ran
        exact Context.accounted_new actor registry world
  | around _ model registry world ih => exact ih.amid registry world

theorem accounted_of_outcome {hook : Hook (Recorded W) σ} (uses : hook.UsesContext)
    {name : String} {after : Instance (Recorded W) σ} {result : Except LifecycleError Unit}
    (h : self.context.Accounted) (ran : hook.outcome name self = (after, result)) :
    after.context.Accounted := by
  obtain rfl : (hook self).value.1 = after := congrArg Prod.fst ran
  exact (uses self).accounted h

theorem value_start (uses : type.UsesContext) {config : Value} {hook : Hook (Recorded W) σ}
    (configured : type.init config = some hook) (self : Instance (Recorded W) σ) :
    (type.start self config).value = hook.outcome "init" self := by
  rw [start, configured]
  exact value_runHook (uses.init config hook configured) "init" self

theorem value_resume (uses : type.UsesContext) (self : Instance (Recorded W) σ) :
    (type.resume self).value = type.didMigrate.outcome "did_migrate" self :=
  value_runHook uses.didMigrate "did_migrate" self

theorem restore_mistyped {type : ActorType W σ} {snapshot : Snapshot}
    (other : snapshot.actorType ≠ type.name) (settings : Settings) (self : Instance W σ) :
    (type.restore settings self snapshot).value =
      (self, .error (.snapshot (.typeMismatch type.name snapshot.actorType))) := by
  rw [restore, if_pos other]
  rfl

/-- With a state that cannot be restored, an actor stays as it is. -/
theorem restore_unread {type : ActorType W σ} {settings : Settings} {self : Instance W σ}
    {snapshot : Snapshot} {model : σ} {e : SnapshotError} (same : snapshot.actorType = type.name)
    (ran : (type.managed.setState settings.rejectUnknownFields self.model
      snapshot.managed).value = (model, .error e)) :
    (type.restore settings self snapshot).value = (self, .error (.snapshot e)) := by
  obtain rfl : model = self.model := ManagedFields.setState_error ran
  rw [restore, if_neg (not_not_intro same)]
  by_cases stranger : snapshot.actor ≠ self.actor
  · simp only [if_pos stranger, Logged.value_bind, ran]
    rfl
  · simp only [if_neg stranger, Logged.value_bind, ran]
    rfl

theorem Lived.accounted (uses : type.UsesContext) (lived : type.Lived self) :
    self.context.Accounted := by
  induction lived with
  | started idle config ran =>
      cases configured : type.init config with
      | none =>
          rw [start, configured] at ran
          cases ran
      | some hook =>
          exact accounted_of_outcome (uses.init config hook configured) idle.accounted
            ((value_start uses configured _).symm.trans ran)
  | @restored self after idle settings snapshot ran =>
      by_cases same : snapshot.actorType = type.name
      · rcases set : (type.managed.setState settings.rejectUnknownFields self.model
            snapshot.managed).value with ⟨model, e | _⟩
        · cases (restore_unread same set).symm.trans ran
        · have hooked := (value_resume uses { self with model }).symm.trans
            ((value_restore same set).symm.trans ran)
          refine accounted_of_outcome uses.didMigrate ?_ hooked
          exact idle.accounted
      · cases (restore_mistyped same settings self).symm.trans ran
  | fired _ limit ports ran ih => exact (uses.reached_of_answers (fire_answers ran)).accounted ih
  | prepared _ settings ih => exact accounted_runReleasingHook uses.willMigrate ih settings _
  | resumed _ ih =>
      rw [value_resume uses]
      exact (uses.didMigrate _).accounted ih
  | around _ model registry world ih => exact ih.amid registry world

/-! ## What is released -/

/-- Starting an actor and restoring it close nothing.  They answer what their hook answers. -/
structure Begins (type : ActorType (Recorded W) σ) (idle : Instance (Recorded W) σ) : Prop where
  start : ∀ config hook, type.init config = some hook →
    (type.start idle config).value = hook.outcome "init" idle
  misconfigured : ∀ config, type.init config = none →
    (type.start idle config).value = (idle, .error (.config idle.actor))
  restore : ∀ settings snapshot model, snapshot.actorType = type.name →
    (type.managed.setState settings.rejectUnknownFields idle.model snapshot.managed).value =
      (model, .ok ()) →
    (type.restore settings idle snapshot).value =
      type.didMigrate.outcome "did_migrate" { idle with model }
  unrestored : ∀ settings snapshot model e, snapshot.actorType = type.name →
    (type.managed.setState settings.rejectUnknownFields idle.model snapshot.managed).value =
      (model, .error e) →
    (type.restore settings idle snapshot).value = (idle, .error (.snapshot e))
  mistyped : ∀ settings snapshot, snapshot.actorType ≠ type.name →
    (type.restore settings idle snapshot).value =
      (idle, .error (.snapshot (.typeMismatch type.name snapshot.actorType)))

/-- Before a move and at the end what is left open is dealt with.  Resuming closes nothing, and
firing closes nothing that the actor's own answers do not close. -/
structure Releases (type : ActorType (Recorded W) σ) (live : Instance (Recorded W) σ) :
    Prop where
  prepareMove : ∀ settings, Settled settings (type.willMigrate.outcome "will_migrate" live)
    (type.prepareMove settings live).value
  finish : ∀ settings, Settled settings (type.willEnd.outcome "will_end" live)
    (type.finish settings live).value
  resume : (type.resume live).value = type.didMigrate.outcome "did_migrate" live
  fire : ∀ (P : Type) [PortAccess P] (limit : Nat) (ports : P)
    (outcome : Outcome (Instance (Recorded W) σ) P FireReport),
    (type.fire limit live ports).value = some outcome →
      Relation.ReflTransGen type.Answers live outcome.state

/-- Capabilities are released before a move and at the end, and at no other time. -/
theorem lived_releases (uses : type.UsesContext) :
    (∀ self, type.Begins self) ∧ ∀ self, type.Lived self → type.Releases self := by
  refine ⟨fun self => ?_, fun self lived => ?_⟩
  · exact
      { start := fun config hook configured => value_start uses configured self
        misconfigured := fun config none => by
          rw [ActorType.start, none]
          rfl
        restore := fun settings snapshot model same set =>
          (value_restore same set).trans (value_resume uses _)
        unrestored := fun settings snapshot model e same set => restore_unread same set
        mistyped := fun settings snapshot other => restore_mistyped other settings self }
  · have accounted := lived.accounted uses
    exact
      { prepareMove := fun settings =>
          settled_runReleasingHook uses.willMigrate accounted settings _
        finish := fun settings => settled_runReleasingHook uses.willEnd accounted settings _
        resume := value_resume uses self
        fire := fun P _ limit ports outcome ran => fire_answers ran }

end ActorType

/-! ## Programs -/

namespace Statement

variable {self : ProgramInstance (Recorded W)}

theorem reached_withHandle (label : String) {work : Handle → Logged (Progress (Recorded W))}
    (h : ∀ handle, self.context.Reached (work handle).value.1.context) :
    self.context.Reached (withHandle self label work).value.1.context := by
  rw [withHandle]
  cases self.model.handles.get? label with
  | none => exact .refl
  | some handle => exact h handle

theorem reached_writeTo (value : Value) (handle : Handle) :
    self.context.Reached (writeTo self value handle).value.1.context := by
  have acts := Context.Reached.perform self.context (.write handle value)
  rw [Context.perform] at acts
  rw [writeTo]
  split
  · rename_i written
    rwa [written] at acts
  · rename_i failed
    rwa [failed] at acts

/-- A statement acts on the context through its operations alone. -/
theorem reached_run (statement : Statement) (self : ProgramInstance (Recorded W))
    (inputs : List Value) :
    self.context.Reached (statement.run self inputs).value.1.context := by
  induction statement generalizing self with
  | openCapability label name config =>
      have acts := Context.Reached.perform self.context (.openCapability name config)
      rw [Context.perform] at acts
      rw [run, Logged.value_bind]
      split
      · rename_i failed
        rwa [failed] at acts
      · rename_i opened
        rwa [opened] at acts
  | read label =>
      rw [run]
      refine reached_withHandle label fun handle => ?_
      have acts := Context.Reached.perform self.context (.read handle)
      rw [Context.perform] at acts
      split
      · rename_i read
        rwa [read] at acts
      · rename_i failed
        rwa [failed] at acts
  | write label value => exact reached_withHandle label (reached_writeTo value)
  | writeInput label place => exact reached_withHandle label (reached_writeTo _)
  | close label =>
      exact reached_withHandle label fun handle => .perform self.context (.close handle)
  | shut label =>
      exact reached_withHandle label fun handle => .perform self.context (.close handle)
  | when condition statement ih =>
      rw [run]
      split
      · exact ih self
      · exact .refl
  | add | set | stashInputs | note | clear | forget => exact .refl
  | fail | answer | echo | reverse | array | sum | emit | emitVariable | emitStash | emitActor =>
      exact .refl

theorem reached_runAll (inputs : List Value) (statements : List Statement)
    (self : ProgramInstance (Recorded W)) :
    self.context.Reached (runAll inputs statements self).value.1.context := by
  induction statements generalizing self with
  | nil => exact .refl
  | cons statement rest ih =>
      have first := reached_run statement self inputs
      rw [runAll, Logged.value_bind]
      split
      · rename_i ran
        rwa [ran] at first
      · rename_i ran
        rwa [ran] at first
      · rename_i ran
        rw [ran] at first
        exact first.trans (ih _)

theorem usesContext_hook (statements : List Statement) :
    (hook statements : Hook (Recorded W) ProgramState).UsesContext :=
  fun self => reached_runAll [] statements self

end Statement

namespace Program

/-- Programs act on the context through its operations alone, whatever their statements are. -/
theorem usesContext (program : Program) : (program.type (W := Recorded W)).UsesContext where
  body action listed self values := by
    obtain ⟨source, -, rfl⟩ := List.mem_map.1 listed
    exact Statement.reached_runAll values source.body self
  onException _ _ _ := .refl
  init config hook same := by
    cases same
    intro self
    let model := if config.isNull then self.model else self.model.keep [config]
    exact Statement.usesContext_hook program.init { self with model }
  willMigrate := Statement.usesContext_hook program.willMigrate
  didMigrate := Statement.usesContext_hook program.didMigrate
  willEnd := Statement.usesContext_hook program.willEnd

/-- A program that opens a capability when it starts and whenever it resumes, under one label, and
fails before a move with one more of them open. -/
def leaky : Program where
  init := [.openCapability "log" "script" .null]
  didMigrate := [.openCapability "log" "script" .null]
  willMigrate := [.openCapability "last" "script" .null, .fail "not now"]

/-- The one thing that is registered for it. -/
def scripted : Registry DeviceWorld :=
  ⟨⟨[("script", (Device.script 0).factory)], List.pairwise_singleton _ _⟩⟩

/-- That program, when it has started and resumed. -/
def leaking : ProgramInstance (Recorded DeviceWorld) :=
  let context : Context (Recorded DeviceWorld) :=
    { table := { actor := ⟨"a"⟩ }
      registry := scripted.recorded
      world := { world := { scripts := [{}] } } }
  (leaky.type.resume (leaky.type.start ⟨{}, context⟩ .null).value.1).value.1

/-- All three capabilities of the program are closed, though its hook fails and it has lost the
handle of the first.  Without the setting they stay open. -/
theorem leaking_released :
    (leaky.type (W := Recorded DeviceWorld)).UsesContext ∧
    leaky.type.Lived leaking ∧ leaky.type.Releases leaking ∧
    (leaky.type.prepareMove {} leaking).value.2 =
      .error (.hook ⟨"a"⟩ "will_migrate" ⟨"not now", []⟩) ∧
    (leaky.type.prepareMove {} leaking).value.1.context.openHandles = [] ∧
    (leaky.type.prepareMove {} leaking).value.1.context.world.closed.Perm [0, 1, 2] ∧
    (leaky.type.prepareMove { closeLeakedCapabilities := false }
      leaking).value.1.context.openHandles =
        [⟨"script", 0⟩, ⟨"script", 1⟩, ⟨"script", 2⟩] := by
  have lived : leaky.type.Lived leaking :=
    .resumed (.started (.created ⟨"a"⟩ scripted { scripts := [{}] } rfl) .null rfl)
  have releases := (ActorType.lived_releases leaky.usesContext).2 leaking lived
  have settled := releases.prepareMove {}
  have created : (leaky.type.prepareMove {} leaking).value.1.context.world.created = 3 :=
    (settled.kept rfl).2
  obtain ⟨none, closed⟩ := settled.released rfl
  rw [created] at closed
  exact ⟨leaky.usesContext, lived, releases, settled.answer, none, closed, rfl⟩

end Program

end Dataflow
