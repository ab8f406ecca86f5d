import Dataflow.Actors.Catalogue
import Dataflow.Proofs.Capability.Table
import Dataflow.Proofs.Firing.Repetition

/-!
# Actors that fail without a trace

Most bodies compute on the actor's own fields and change them only when they produce what they
promised.  The two that use a capability change nothing either when the capability refuses: one on
a script that cannot be read or written answers so before it touches the script.  So a call that has
failed can be repeated as often as one likes.

* `Context.OverScripts` — a context of the actor whose open capabilities are all on scripts.
* `Kind.restrained` — the coded types leave no trace of a failure over scripts.
* `Behaviour.fire_error_repeats` — the calls after a failed one.
-/

namespace Dataflow

/-! ## Scripts -/

namespace Context

variable {context after : Context DeviceWorld} {actor : ActorRef} {handle : Handle}

/-- The context is the actor's, and every open capability is one on a script. -/
structure OverScripts (actor : ActorRef) (context : Context DeviceWorld) : Prop where
  owner : context.actor = actor
  opened : ∀ entry ∈ context.table.opened, ∃ place, entry.2 = Capability.script place

theorem OverScripts.of_table (h : context.OverScripts actor) (same : after.table = context.table) :
    after.OverScripts actor where
  owner := (congrArg HandleTable.actor same).trans h.owner
  opened := same ▸ h.opened

theorem OverScripts.find? (h : context.OverScripts actor) {capability : Capability DeviceWorld}
    (found : context.table.find? handle = some capability) :
    ∃ place, capability = Capability.script place := by
  obtain ⟨entry, there, rfl⟩ := Option.map_eq_some_iff.1 found
  exact h.opened entry (List.mem_of_find?_eq_some there)

/-- A read fails before it touches the script. -/
theorem OverScripts.read_error (h : context.OverScripts actor) {e : CapabilityError}
    (failed : context.read handle = (after, .error e)) : after = context := by
  cases found : context.table.find? handle with
  | none =>
      simp only [Context.read, found] at failed
      cases failed
      rfl
  | some capability =>
      obtain ⟨place, rfl⟩ := h.find? found
      simp only [Context.read, found] at failed
      split at failed
      · next readable =>
          -- a script that can be read answers
          cases left : (context.world.script place).reads with
          | nil => simp [Capability.script, left] at readable
          | cons value rest =>
              simp only [Capability.script, Script.read, left] at failed
              cases failed
      · cases failed
        rfl

/-- A write fails before it touches the script. -/
theorem OverScripts.write_error (h : context.OverScripts actor) {value : Value}
    {e : CapabilityError} (failed : context.write handle value = (after, .error e)) :
    after = context := by
  cases found : context.table.find? handle with
  | none =>
      simp only [Context.write, found] at failed
      cases failed
      rfl
  | some capability =>
      obtain ⟨place, rfl⟩ := h.find? found
      simp only [Context.write, found] at failed
      split at failed
      · cases failed
      · cases failed
        rfl

end Context

/-! ## Actions that are restrained -/

namespace Action

variable {W σ : Type}

theorem completes_one {S : Type} {action : Action S} (single : action.outputArity = 1)
    (value : Value) : action.Completes (.ok (.one value)) :=
  ⟨_, [value], rfl, rfl, single.symm⟩

theorem completes_fired {S : Type} {action : Action S} (silent : action.outputArity = 0) :
    action.Completes (.ok (.fired true)) :=
  ⟨_, [], rfl, rfl, silent.symm⟩

/-- A body on the actor's own fields is restrained if it changes them only when it fires; it may
rely on what is known of the context, which it cannot change. -/
theorem restrained_onModel {sound : Context W → Prop} {action : Action (Instance W σ)}
    (work : σ → List Value → σ × Except Failure ActionResult)
    (body : action.body = onModel work)
    (same : ∀ model values, ¬action.Completes (work model values).2 →
      (work model values).1 = model) :
    action.Restrained fun self => sound self.context where
  same {self} _ values incomplete := by
    rw [body] at incomplete ⊢
    show { self with model := (work self.model values).1 } = self
    rw [same self.model values incomplete]
  sound {self} start values := by
    rw [body]
    exact start

/-- A body that always fires is restrained. -/
theorem restrained_of_completes {sound : Context W → Prop} {action : Action (Instance W σ)}
    (work : σ → List Value → σ × Except Failure ActionResult)
    (body : action.body = onModel work)
    (completes : ∀ model values, action.Completes (work model values).2) :
    action.Restrained fun self => sound self.context :=
  restrained_onModel work body fun model values incomplete =>
    absurd (completes model values) incomplete

/-- A body that never changes the fields is restrained. -/
theorem restrained_of_constant {sound : Context W → Prop} {action : Action (Instance W σ)}
    (work : σ → List Value → σ × Except Failure ActionResult)
    (body : action.body = onModel work)
    (constant : ∀ model values, (work model values).1 = model) :
    action.Restrained fun self => sound self.context :=
  restrained_onModel work body fun model values _ => constant model values

end Action

/-- An actor that does not expect exception tokens is restrained if its actions are. -/
theorem ActorType.restrained_of_actions {W σ : Type} {type : ActorType W σ}
    {sound : Instance W σ → Prop} (actor : ActorRef)
    (actions : ∀ action ∈ type.actions, action.Restrained sound)
    (unexpected : type.onException = fun self _ reason => pure (self, .error (unhandled reason))) :
    (type.behaviour actor).Restrained sound where
  bodies := actions
  handler action _ self _ reason _ := by
    show (type.onException self action.name reason).value.1 = self
    rw [unexpected]
    rfl
  handlerSound action _ self start reason := by
    show sound (type.onException self action.name reason).value.1
    rw [unexpected]
    exact start

/-! ## The coded types -/

namespace Actors

theorem Accumulator.restrained (actor : ActorRef) :
    ((Accumulator.type : ActorType DeviceWorld Accumulator).behaviour actor).Restrained
      fun self => self.context.OverScripts actor := by
  refine ActorType.restrained_of_actions actor (fun action listed => ?_) rfl
  obtain rfl := List.mem_singleton.1 listed
  exact Action.restrained_of_completes add rfl fun _ _ => Action.completes_one rfl _

theorem Doubler.restrained (actor : ActorRef) :
    ((Doubler.type : ActorType DeviceWorld Doubler).behaviour actor).Restrained
      fun self => self.context.OverScripts actor := by
  refine ActorType.restrained_of_actions actor (fun action listed => ?_) rfl
  obtain rfl := List.mem_singleton.1 listed
  refine Action.restrained_onModel double rfl fun self values incomplete => ?_
  rw [double] at incomplete ⊢
  split at incomplete
  · exact absurd (Action.completes_one rfl _) incomplete
  · rfl

/-- It counts a merge only in the mode in which it merges. -/
theorem Faulty.restrained (actor : ActorRef) :
    ((Faulty.type : ActorType DeviceWorld Faulty).behaviour actor).Restrained
      fun self => self.context.OverScripts actor := by
  refine ActorType.restrained_of_actions actor (fun action listed => ?_) rfl
  obtain rfl := List.mem_singleton.1 listed
  refine Action.restrained_onModel merge rfl fun self values incomplete => ?_
  cases mode : self.mode with
  | sound =>
      simp only [merge, mode] at incomplete
      exact absurd (Action.completes_one rfl _) incomplete
  | fail => simp only [merge, mode]
  | wrongArity => simp only [merge, mode]
  | noOutput => simp only [merge, mode]

theorem Splitter.restrained (actor : ActorRef) :
    ((Splitter.type : ActorType DeviceWorld Splitter).behaviour actor).Restrained
      fun self => self.context.OverScripts actor := by
  refine ActorType.restrained_of_actions actor (fun action listed => ?_) rfl
  obtain rfl := List.mem_singleton.1 listed
  exact Action.restrained_of_constant split rfl fun _ _ => rfl

theorem EvenPass.restrained (actor : ActorRef) :
    ((EvenPass.type : ActorType DeviceWorld EvenPass).behaviour actor).Restrained
      fun self => self.context.OverScripts actor := by
  refine ActorType.restrained_of_actions actor (fun action listed => ?_) rfl
  obtain rfl := List.mem_singleton.1 listed
  exact Action.restrained_of_constant (fun self values => (self, .ok (.produced values))) rfl
    fun _ _ => rfl

theorem Gate.restrained (actor : ActorRef) :
    ((Gate.type : ActorType DeviceWorld Gate).behaviour actor).Restrained
      fun self => self.context.OverScripts actor := by
  refine ActorType.restrained_of_actions actor (fun action listed => ?_) rfl
  obtain rfl := List.mem_singleton.1 listed
  exact Action.restrained_of_constant forward rfl fun _ _ => rfl

/-- It notes a reason only when it emits it. -/
theorem Resilient.restrained (actor : ActorRef) :
    ((Resilient.type : ActorType DeviceWorld Resilient).behaviour actor).Restrained
      fun self => self.context.OverScripts actor where
  bodies action listed := by
    obtain rfl := List.mem_singleton.1 listed
    exact Action.restrained_of_constant (fun self values => (self, .ok (.produced values))) rfl
      fun _ _ => rfl
  handler action listed self _ reason incomplete := by
    obtain rfl := List.mem_singleton.1 listed
    exact absurd (Action.completes_one rfl _) incomplete
  handlerSound _ _ _ start _ := start

theorem Prioritized.restrained (actor : ActorRef) :
    ((Prioritized.type : ActorType DeviceWorld Prioritized).behaviour actor).Restrained
      fun self => self.context.OverScripts actor := by
  refine ActorType.restrained_of_actions actor (fun action listed => ?_) rfl
  obtain ⟨name, rfl⟩ : ∃ name, action = Prioritized.action name := by
    simp only [type, List.mem_cons, List.not_mem_nil, or_false] at listed
    rcases listed with rfl | rfl | rfl <;> exact ⟨_, rfl⟩
  exact Action.restrained_of_completes (label name) rfl fun _ _ => Action.completes_one rfl _

theorem Rearming.restrained (actor : ActorRef) :
    ((Rearming.type : ActorType DeviceWorld Rearming).behaviour actor).Restrained
      fun self => self.context.OverScripts actor := by
  refine ActorType.restrained_of_actions actor (fun action listed => ?_) rfl
  simp only [type, List.mem_cons, List.not_mem_nil, or_false] at listed
  rcases listed with rfl | rfl | rfl
  · exact Action.restrained_of_completes prime rfl fun _ _ => Action.completes_one rfl _
  · exact Action.restrained_of_completes consume rfl fun _ _ => Action.completes_one rfl _
  · exact Action.restrained_of_completes fallback rfl fun _ _ => Action.completes_one rfl _

theorem Sensor.restrained (actor : ActorRef) :
    ((Sensor.type : ActorType DeviceWorld Sensor).behaviour actor).Restrained
      fun self => self.context.OverScripts actor := by
  refine ActorType.restrained_of_actions actor (fun action listed => ?_) rfl
  obtain rfl := List.mem_singleton.1 listed
  exact Action.restrained_of_completes sample rfl fun _ _ => Action.completes_fired rfl

theorem Leaky.restrained (actor : ActorRef) :
    ((Leaky.type : ActorType DeviceWorld Leaky).behaviour actor).Restrained
      fun self => self.context.OverScripts actor :=
  ActorType.restrained_of_actions actor (fun _ listed => absurd listed List.not_mem_nil) rfl

/-- A response leaves the buffer only as the one value that is promised. -/
theorem Fetcher.emit_restrained {action : Action (Instance DeviceWorld Fetcher)}
    (actor : ActorRef) (body : action.body = onModel emit) (single : action.outputArity = 1) :
    action.Restrained fun self => self.context.OverScripts actor := by
  refine Action.restrained_onModel emit body fun self values incomplete => ?_
  cases buffered : self.response with
  | none =>
      show { self with response := none } = self
      rw [← buffered]
  | some value =>
      simp only [emit, buffered] at incomplete
      exact absurd (Action.completes_one single value) incomplete

/-- The body of an action that makes one call on the capability the actor holds, if it holds one. -/
def Fetcher.calling {α : Type}
    (call : Context DeviceWorld → Handle → List Value →
      Context DeviceWorld × Except CapabilityError α)
    (note : Fetcher → α → Fetcher) (self : Instance DeviceWorld Fetcher) (values : List Value) :
    Logged (Instance DeviceWorld Fetcher × Except Failure ActionResult) :=
  match self.model.handle with
  | none => pure (self, .ok (.fired true))
  | some handle =>
    match call self.context handle values with
    | (context, .error e) => pure ({ self with context }, .error e.failure)
    | (context, .ok answer) =>
      pure ({ context, model := note self.model answer }, .ok (.fired true))

theorem Fetcher.receive_eq : receive (W := DeviceWorld) =
    calling (fun context handle _ => context.read handle)
      fun model value => { model with response := some value } := by
  funext self values
  cases held : self.model.handle with
  | none => simp only [receive, calling, held]
  | some handle =>
      rcases ran : self.context.read handle with ⟨context, e | value⟩ <;>
        simp only [receive, calling, held, ran]

theorem Fetcher.request_eq : request (W := DeviceWorld) =
    calling (fun context handle values => context.write handle (values.headD .null))
      fun model _ => { model with requests := model.requests + 1 } := by
  funext self values
  cases held : self.model.handle with
  | none => simp only [request, calling, held]
  | some handle =>
      rcases ran : self.context.write handle (values.headD .null) with ⟨context, e | sent⟩ <;>
        simp only [request, calling, held, ran]

/-- A call that changes nothing when it is refused, and never the table, makes a restrained body. -/
theorem Fetcher.calling_restrained {action : Action (Instance DeviceWorld Fetcher)}
    (actor : ActorRef) (silent : action.outputArity = 0) {α : Type}
    {call : Context DeviceWorld → Handle → List Value →
      Context DeviceWorld × Except CapabilityError α}
    {note : Fetcher → α → Fetcher} (body : action.body = calling call note)
    (refused : ∀ {context after handle values e}, context.OverScripts actor →
      call context handle values = (after, .error e) → after = context)
    (table : ∀ context handle values, (call context handle values).1.table = context.table) :
    action.Restrained fun self => self.context.OverScripts actor where
  same {self} start values incomplete := by
    rw [body] at incomplete ⊢
    cases held : self.model.handle with
    | none =>
        simp only [calling, held]
        rfl
    | some handle =>
        rcases ran : call self.context handle values with ⟨context, e | answer⟩
        · obtain rfl := refused start ran
          simp only [calling, held, ran]
          rfl
        · simp only [calling, held, ran] at incomplete
          exact absurd (Action.completes_fired silent) incomplete
  sound {self} start values := by
    rw [body, calling]
    split
    · exact start
    · next handle _ =>
        have kept := start.of_table (table self.context handle values)
        split <;> next ran =>
          rw [ran] at kept
          exact kept

theorem Fetcher.restrained (actor : ActorRef) :
    ((Fetcher.type : ActorType DeviceWorld Fetcher).behaviour actor).Restrained
      fun self => self.context.OverScripts actor := by
  refine ActorType.restrained_of_actions actor (fun action listed => ?_) rfl
  simp only [type, List.mem_cons, List.not_mem_nil, or_false] at listed
  rcases listed with rfl | rfl | rfl
  · exact emit_restrained actor rfl rfl
  · exact calling_restrained actor rfl receive_eq (fun scripts => scripts.read_error)
      fun context handle _ => Context.table_read context handle
  · exact calling_restrained actor rfl request_eq (fun scripts => scripts.write_error)
      fun context handle _ => Context.table_write context handle _

end Actors

namespace Kind

/-- The type is fixed by its code; the two others run the program they come with. -/
def Coded : Kind → Prop
  | program _ => False
  | handler _ => False
  | _ => True

/-- An actor of a coded type whose capabilities are scripts leaves no trace of a failure. -/
theorem restrained {kind : Kind} (coded : kind.Coded) (actor : ActorRef) :
    (kind.type.behaviour actor).Restrained fun self => self.context.OverScripts actor := by
  cases kind with
  | accumulator => exact Actors.Accumulator.restrained actor
  | doubler => exact Actors.Doubler.restrained actor
  | faulty => exact Actors.Faulty.restrained actor
  | splitter => exact Actors.Splitter.restrained actor
  | fetcher => exact Actors.Fetcher.restrained actor
  | leaky => exact Actors.Leaky.restrained actor
  | evenPass => exact Actors.EvenPass.restrained actor
  | gate => exact Actors.Gate.restrained actor
  | resilient => exact Actors.Resilient.restrained actor
  | prioritized => exact Actors.Prioritized.restrained actor
  | rearming => exact Actors.Rearming.restrained actor
  | sensor => exact Actors.Sensor.restrained actor
  | program code => cases coded
  | handler code => cases coded

end Kind

/-! ## Calls after a failed one -/

/-- An actor of a coded type that is fired again after a failure fails again, and stays as it is. -/
theorem Kind.fire_again {kind : Kind} (coded : kind.Coded)
    {self last : Instance DeviceWorld kind.State} {store final : PortStore} {limit : Nat}
    {e : FiringError} (scripts : self.context.OverScripts self.actor)
    (clean : store.Unpeeked self.actor)
    (failed : (kind.type.fire limit self store).value = some ⟨last, final, .error e⟩) {again : Nat}
    (scans : 0 < again) :
    (kind.type.fire again last final).value = some ⟨last, final, .error e⟩ := by
  have restrained := kind.restrained coded self.actor
  obtain ⟨kept, -⟩ := Behaviour.fire_keeps restrained.keeps ⟨scripts, clean⟩ failed
  have same : last.actor = self.actor := kept.owner
  rw [ActorType.fire, same]
  exact Behaviour.fire_of_select_error scans (restrained.select_again scripts clean failed)

namespace Behaviour

/-- The coded types leave no trace of a failure over scripts.  Wherever an actor leaves none, a call
that has failed can be repeated: any number of further calls performs no firing, ends in the same
error, and leaves the actor and the ports exactly as the first one did.  So it is with an actor of a
coded type that is fired again. -/
theorem fire_error_repeats :
    (∀ (kind : Kind) (actor : ActorRef), kind.Coded →
      (kind.type.behaviour actor).Restrained fun self => self.context.OverScripts actor) ∧
    (∀ (S : Type) (behaviour : Behaviour S) (sound : S → Prop) (state : S) (store : PortStore)
        (limit : Nat) (last : S) (final : PortStore) (e : FiringError),
      behaviour.Restrained sound → sound state → store.Unpeeked behaviour.actor →
      (behaviour.fire limit state store).value = some ⟨last, final, .error e⟩ →
        (∀ limits : List Nat, (∀ limit ∈ limits, 0 < limit) →
          behaviour.fireEach limits last final =
            limits.map fun _ => some ⟨last, final, .error e⟩) ∧
        ∀ firings rest next, Completed behaviour last final firings rest next → firings = []) ∧
    ∀ (kind : Kind) (self last : Instance DeviceWorld kind.State) (store final : PortStore)
        (limit : Nat) (e : FiringError), kind.Coded → self.context.OverScripts self.actor →
      store.Unpeeked self.actor →
      (kind.type.fire limit self store).value = some ⟨last, final, .error e⟩ →
        ∀ again, 0 < again →
          (kind.type.fire again last final).value = some ⟨last, final, .error e⟩ := by
  refine ⟨fun kind actor coded => kind.restrained coded actor, ?_, ?_⟩
  · intro S behaviour sound state store limit last final e restrained start clean failed
    have again := restrained.select_again start clean failed
    exact ⟨fun limits scans => fireEach_of_select_error again scans,
      fun firings rest next completed => completed.eq_nil_of_select_error again⟩
  · intro kind self last store final limit e coded scripts clean failed again scans
    exact kind.fire_again coded scripts clean failed scans

/-- A doubler that has just been created, in a world without devices. -/
def freshDoubler (actor : ActorRef) : Instance DeviceWorld Actors.Doubler where
  model := {}
  context := { table := { actor }, registry := {}, world := {} }

/-- The first call doubles one number and fails on what is none; three more calls fail alike. -/
theorem doubler_error_repeats : ∃ last final e,
    (Actors.Doubler.type.fire 2 (freshDoubler ⟨"d"⟩)
      (relayPorts ⟨"d"⟩ [.data (.int 5), .data .null])).value = some ⟨last, final, .error e⟩ ∧
    last.model.fired = 1 ∧ final.tokensOn ⟨"d"⟩ .output "out" = [.data (.int 10)] ∧
    (Actors.Doubler.type.fire 1 last final).value = some ⟨last, final, .error e⟩ ∧
    (Actors.Doubler.type.behaviour ⟨"d"⟩).fireEach [1, 1, 1] last final =
      [some ⟨last, final, .error e⟩, some ⟨last, final, .error e⟩,
        some ⟨last, final, .error e⟩] := by
  obtain ⟨last, final, e, failed, fired, doubled⟩ : ∃ last final e,
      (Actors.Doubler.type.fire 2 (freshDoubler ⟨"d"⟩)
        (relayPorts ⟨"d"⟩ [.data (.int 5), .data .null])).value = some ⟨last, final, .error e⟩ ∧
      last.model.fired = 1 ∧ final.tokensOn ⟨"d"⟩ .output "out" = [.data (.int 10)] :=
    ⟨_, _, _, rfl, rfl, rfl⟩
  have scripts : (freshDoubler ⟨"d"⟩).context.OverScripts ⟨"d"⟩ :=
    ⟨rfl, fun _ opened => absurd opened List.not_mem_nil⟩
  have clean := unpeeked_relayPorts ⟨"d"⟩ [.data (.int 5), .data .null]
  obtain ⟨restrained, repeats, again⟩ := fire_error_repeats
  obtain ⟨each, -⟩ := repeats _ _ _ _ _ 2 last final e (restrained .doubler ⟨"d"⟩ trivial)
    scripts clean failed
  exact ⟨last, final, e, failed, fired, doubled,
    again .doubler (freshDoubler ⟨"d"⟩) last _ final 2 e trivial scripts clean failed 1 Nat.one_pos,
    each [1, 1, 1] (by simp)⟩

end Behaviour

end Dataflow
