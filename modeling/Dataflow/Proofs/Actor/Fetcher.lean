import Dataflow.Actors.Devices
import Dataflow.Proofs.Actor.Site
import Dataflow.Proofs.Capability.Script

/-!
# A fetcher at one site

A fetcher on a script passes the values of the script on to its port `data`, with a buffer for one
value in between.  What is still on the way to the port is `Fetcher.held`: the buffered response,
then the values that the script has left.

* `Fetcher.Coherent` — what is true of the fetcher in every state that it reaches.
* `Fetcher.resume_rests`, `Fetcher.prepareMove_rests`, `Fetcher.finish_rests` — the hooks open and
  close capabilities and touch nothing of what is held.
* `Fetcher.fire_keeps` — firing only moves values from what is held to the port.
-/

namespace Dataflow.Actors.Fetcher

open Context

/-! ## States -/

/-- A fetcher that uses the script, with values that can be captured. -/
structure Coherent (place : Nat) (actor : ActorRef) (fetcher : Instance DeviceWorld Fetcher) :
    Prop where
  identity : fetcher.actor = actor
  registered :
    fetcher.context.registry.factories.get? capability = some (Device.script place).factory
  onScript : fetcher.context.OnScript place
  timeout : fetcher.model.timeoutMs < 2 ^ 64
  response : ∀ value, fetcher.model.response = some value → value.Valid
  unread : ∀ value ∈ fetcher.context.unread place, value.Valid

/-- The values on their way to the port: the buffered one, then those that the script has left. -/
def held (place : Nat) (self : Instance DeviceWorld Fetcher) : List Value :=
  self.model.response.toList ++ self.context.unread place

/-- The fetcher holds what it held, and has sent as many requests. -/
structure Rests (place : Nat) (actor : ActorRef) (before after : Instance DeviceWorld Fetcher) :
    Prop extends Coherent place actor after where
  requests : after.model.requests = before.model.requests
  sameResponse : after.model.response = before.model.response
  sameUnread : after.context.unread place = before.context.unread place

variable {place : Nat} {actor : ActorRef} {self after : Instance DeviceWorld Fetcher}

theorem Rests.held (h : Rests place actor self after) : held place after = held place self := by
  rw [Fetcher.held, Fetcher.held, h.sameResponse, h.sameUnread]

theorem Rests.trans {next : Instance DeviceWorld Fetcher} (first : Rests place actor self after)
    (second : Rests place actor after next) : Rests place actor self next :=
  { second with
    requests := second.requests.trans first.requests
    sameResponse := second.sameResponse.trans first.sameResponse
    sameUnread := second.sameUnread.trans first.sameUnread }

/-- An operation of the context that leaves the values to be read as they are. -/
theorem Coherent.rests (h : Coherent place actor self) {context : Context DeviceWorld}
    (leaves : Leaves place self.context (self.context.unread place) context)
    (handle : Option Handle) :
    Rests place actor self ⟨{ self.model with handle }, context⟩ where
  identity := leaves.actor.trans h.identity
  registered := leaves.registry ▸ h.registered
  onScript := leaves.toOnScript
  timeout := h.timeout
  response := h.response
  unread := leaves.unread ▸ h.unread
  requests := rfl
  sameResponse := rfl
  sameUnread := leaves.unread

/-! ## Hooks -/

theorem acquire_rests (h : Coherent place actor self) :
    ∃ after, (acquire self).value = (after, .ok ()) ∧ Rests place actor self after := by
  obtain ⟨handle, context, opened, leaves⟩ := openCapability_onScript h.onScript h.registered
    (.object [("timeout_ms", .nat self.model.timeoutMs)])
  refine ⟨⟨{ self.model with handle := some handle }, context⟩, ?_, h.rests leaves _⟩
  simp only [acquire, Logged.value_bind, opened]
  rfl

theorem init_eq_some {config : Value} {hook : Hook DeviceWorld Fetcher}
    (h : init config = some hook) : ∃ timeoutMs < 2 ^ 64, hook = fun self =>
      acquire { self with model := { self.model with timeoutMs } } := by
  unfold init at h
  split at h
  next timeout _ =>
    obtain ⟨timeoutMs, read, rfl⟩ := Option.map_eq_some_iff.1 h
    exact ⟨timeoutMs, Codec.lt_of_decode_unsigned read, rfl⟩
  · cases h

/-- A fetcher that has started has opened a capability. -/
theorem start_rests (h : Coherent place actor self) {config : Value}
    (started : (type.start self config).value = (after, .ok ())) :
    Rests place actor self after := by
  rw [ActorType.start] at started
  cases configured : (type : ActorType DeviceWorld Fetcher).init config with
  | none =>
      rw [configured] at started
      cases started
  | some hook =>
      obtain ⟨timeoutMs, small, rfl⟩ := init_eq_some configured
      have timed : Coherent place actor { self with model := { self.model with timeoutMs } } :=
        { h with timeout := small }
      obtain ⟨acquired, ran, rests⟩ := acquire_rests timed
      simp only [configured, ActorType.runHook, Logged.value_bind, ran] at started
      cases started
      exact ⟨rests.toCoherent, rests.requests, rests.sameResponse, rests.sameUnread⟩

theorem release_rests (h : Coherent place actor self) :
    ∃ after, (release self).value = (after, .ok ()) ∧ Rests place actor self after := by
  cases held : self.model.handle with
  | none =>
      refine ⟨self, ?_, ?_⟩
      · simp only [release, held]
        rfl
      · have same := h.rests h.onScript.leaves_self self.model.handle
        exact same
  | some handle =>
      refine ⟨⟨{ self.model with handle := none }, (self.context.close handle).value.1⟩, ?_,
        h.rests (close_onScript h.onScript handle) none⟩
      simp only [release, held, Logged.value_bind]
      rfl

theorem settleHandles_rests (h : Coherent place actor self) (settings : Settings)
    (hook : String) :
    Rests place actor self (ActorType.settleHandles settings hook self).value := by
  have still := h.rests h.onScript.leaves_self self.model.handle
  unfold ActorType.settleHandles
  split
  · exact still
  · by_cases closing : settings.closeLeakedCapabilities = true
    · simp only [if_pos closing, Logged.value_bind]
      exact h.rests (closeAll_onScript h.onScript) self.model.handle
    · simp only [if_neg closing, Logged.value_bind]
      exact still

/-- A fetcher resumes with a capability opened anew. -/
theorem resume_rests (h : Coherent place actor self) :
    ∃ after, (type.resume self).value = (after, .ok ()) ∧ Rests place actor self after := by
  obtain ⟨after, ran, rests⟩ := acquire_rests h
  refine ⟨after, ?_, rests⟩
  show (ActorType.runHook "did_migrate" acquire self).value = _
  simp only [ActorType.runHook, Logged.value_bind, ran]
  rfl

theorem runReleasingHook_rests (h : Coherent place actor self) (settings : Settings)
    (name : String) :
    ∃ after, (ActorType.runReleasingHook settings name release self).value = (after, .ok ()) ∧
      Rests place actor self after := by
  obtain ⟨released, ran, rests⟩ := release_rests h
  refine ⟨_, ?_, rests.trans (settleHandles_rests rests.toCoherent settings name)⟩
  simp only [ActorType.runReleasingHook, ActorType.runHook, Logged.value_bind, ran]
  rfl

/-- A fetcher that is about to move has closed its capability. -/
theorem prepareMove_rests (h : Coherent place actor self) (settings : Settings) :
    ∃ after, (type.prepareMove settings self).value = (after, .ok ()) ∧
      Rests place actor self after :=
  runReleasingHook_rests h settings "will_migrate"

theorem finish_rests (h : Coherent place actor self) (settings : Settings) :
    ∃ after, (type.finish settings self).value = (after, .ok ()) ∧
      Rests place actor self after :=
  runReleasingHook_rests h settings "will_end"

/-! ## Firing -/

/-- What comes of the fetcher's answers: it refuses and stays as it is, or what it held is what it
produces for `data`, followed by what it still holds. -/
inductive Answered (place : Nat) (actor : ActorRef) (action : Action (Instance DeviceWorld Fetcher))
    (self : Instance DeviceWorld Fetcher) :
    Instance DeviceWorld Fetcher → Except Failure ActionResult → Prop
  | refused {source : Failure} : Answered place actor action self self (.error source)
  | served {after : Instance DeviceWorld Fetcher} {result : ActionResult} {values : List Value} :
      result.values? = some values → values.length = action.outputArity →
      Coherent place actor after →
      held place self =
        PortStore.valuesFor "data" (Action.assign action.outputs values) ++ held place after →
      Answered place actor action self after (.ok result)

/-- The buffered value is what is produced. -/
theorem emit_answered (h : Coherent place actor self)
    {action : Action (Instance DeviceWorld Fetcher)} (outputs : action.outputs = [.one "data"])
    (full : self.model.response.isSome = true) (values : List Value) :
    Answered place actor action self (onModel emit self values).value.1
      (onModel emit self values).value.2 := by
  obtain ⟨value, buffered⟩ := Option.isSome_iff_exists.1 full
  have produced : (ActionResult.produced self.model.response.toList).values? = some [value] := by
    rw [buffered]
    rfl
  refine .served produced ?_ ?_ ?_
  · rw [Action.outputArity, outputs]
    rfl
  · exact { h with response := fun value none => by cases none }
  · rw [held, buffered, outputs]
    rfl

/-- The first value of the script goes to the buffer. -/
theorem receive_answered (h : Coherent place actor self)
    {action : Action (Instance DeviceWorld Fetcher)} (outputs : action.outputs = [])
    (ready : readable self = true) (values : List Value) :
    Answered place actor action self (receive self values).value.1
      (receive self values).value.2 := by
  rw [readable, Bool.and_eq_true] at ready
  have empty := Option.isNone_iff_eq_none.1 ready.1
  cases opened : self.model.handle with
  | none => simp [opened] at ready
  | some handle =>
      rw [opened, Option.any_some] at ready
      obtain ⟨value, rest, context, unread, ran, leaves⟩ := read_onScript h.onScript ready.2
      simp only [receive, opened, ran]
      refine .served rfl ?_ ?_ ?_
      · rw [Action.outputArity, outputs]
        rfl
      · have valid := h.unread
        rw [unread] at valid
        exact
          { identity := leaves.actor.trans h.identity
            registered := leaves.registry ▸ h.registered
            onScript := leaves.toOnScript
            timeout := h.timeout
            response := fun other same => by
              cases same
              exact valid value (List.mem_cons_self ..)
            unread := fun other member => valid other (List.mem_cons_of_mem _
              (leaves.unread ▸ member)) }
      · rw [held, empty, outputs, unread]
        show value :: rest = value :: Context.unread context place
        rw [leaves.unread]

/-- Requests have nothing to do with what is held. -/
theorem request_answered (h : Coherent place actor self)
    {action : Action (Instance DeviceWorld Fetcher)} (outputs : action.outputs = [])
    (ready : writable self = true) (values : List Value) :
    Answered place actor action self (request self values).value.1
      (request self values).value.2 := by
  rw [writable] at ready
  cases opened : self.model.handle with
  | none => simp [opened] at ready
  | some handle =>
      rw [opened, Option.any_some] at ready
      obtain ⟨context, ran, leaves⟩ := write_onScript h.onScript ready (values.headD .null)
      have rests := h.rests leaves self.model.handle
      simp only [request, opened, ran]
      refine .served rfl ?_ ?_ ?_
      · rw [Action.outputArity, outputs]
        rfl
      · exact ⟨rests.identity, rests.registered, rests.onScript, rests.timeout, rests.response,
          rests.unread⟩
      · rw [outputs]
        exact rests.held.symm

/-- The answers to all that the actions of a fetcher read. -/
theorem response_answered (h : Coherent place actor self)
    {action : Action (Instance DeviceWorld Fetcher)}
    (listed : action ∈ (type : ActorType DeviceWorld Fetcher).actions)
    (guard : action.open? self = true) {store : PortStore} {result : Except Failure ActionResult}
    (answer : action.response (type.behaviour actor) self (store.reads actor action.inputs) =
      some (after, result)) : Answered place actor action self after result := by
  rcases List.mem_cons.1 listed with rfl | listed
  · have produced : (onModel emit self []).value = (after, result) := Option.some.inj answer
    obtain ⟨rfl, rfl⟩ := Prod.ext_iff.1 produced
    exact emit_answered h rfl guard []
  · rcases List.mem_cons.1 listed with rfl | listed
    · have produced : (receive self []).value = (after, result) := Option.some.inj answer
      obtain ⟨rfl, rfl⟩ := Prod.ext_iff.1 produced
      exact receive_answered h rfl guard []
    · obtain rfl := List.mem_singleton.1 listed
      rw [Action.response] at answer
      split at answer
      · cases answer
        exact .refused
      · obtain ⟨rfl, rfl⟩ := Prod.ext_iff.1 (Option.some.inj answer)
        exact request_answered h rfl guard _

/-- A fetcher never declines. -/
theorem handsOn_same (h : Coherent place actor self)
    {action : Action (Instance DeviceWorld Fetcher)}
    (listed : action ∈ (type : ActorType DeviceWorld Fetcher).actions) {store : PortStore}
    (handed : action.HandsOn (type.behaviour actor) store self after) : after = self := by
  cases handed with
  | disabled _ => rfl
  | unaccepted _ _ => rfl
  | declined enabled declined =>
      have answered := response_answered h listed enabled.guard declined
      cases answered with
      | served produced => cases produced

/-- A fetcher that fails is left as it was. -/
theorem fails_same (h : Coherent place actor self)
    {action : Action (Instance DeviceWorld Fetcher)}
    (listed : action ∈ (type : ActorType DeviceWorld Fetcher).actions) {store : PortStore}
    {e : FiringError} (fails : action.Fails (type.behaviour actor) store self e after) :
    after = self := by
  cases fails with
  | port _ _ => rfl
  | actor enabled invoked =>
      cases invoked with
      | miscounted answer produced count =>
          have answered := response_answered h listed enabled.guard answer
          cases answered with
          | served produced' count' =>
              rw [produced] at produced'
              cases produced'
              exact absurd count' count
      | failed answer =>
          have answered := response_answered h listed enabled.guard answer
          cases answered with
          | refused => rfl

/-- The values on their way, as tokens: those queued on the port and those that are held. -/
def inFlight (place : Nat) (actor : ActorRef) (self : Instance DeviceWorld Fetcher)
    (store : PortStore) : List Token :=
  store.tokensOn actor .output "data" ++ (held place self).map Token.data

/-- Firing keeps the values on their way, and their order. -/
theorem fire_keeps (place : Nat) (actor : ActorRef) (total : List Token) :
    ((type : ActorType DeviceWorld Fetcher).behaviour actor).Keeps fun self store =>
      Coherent place actor self ∧ store.Travels actor ∧
        inFlight place actor self store = total where
  clean h := h.2.1.unpeeked
  handsOn listed h handed := by
    rw [handsOn_same h.1 listed handed]
    exact h
  fails listed h fails := by
    rw [fails_same h.1 listed fails]
    exact h
  fires listed h fires := by
    obtain ⟨coherent, travels, same⟩ := h
    obtain ⟨result, answer, produced⟩ := fires.answer
    have answered := response_answered coherent listed fires.guard answer
    cases answered with
    | served produced' count kept moved =>
        rw [produced] at produced'
        cases produced'
        refine ⟨kept, travels.effect _ _, ?_⟩
        rw [← same, inFlight, inFlight, moved, List.map_append, ← List.append_assoc]
        exact congrArg (· ++ _) (Action.tokensOn_effect fires.toEnabled _ "data")

end Dataflow.Actors.Fetcher
