import Dataflow.Proofs.Actor.Ledger
import Dataflow.Proofs.Capability.Service
import Dataflow.Proofs.Port.Passage

/-!
# The requests of a fetcher

What a fetcher reads from its port `url` it writes to its script, and counts.  The body writes to
the outside before the engine commits the read, so nothing may fail in between; and the count and
the timeout travel with the fetcher, while the capability is closed and opened anew.

* `Fetcher.Posts` — values were written to the script, and counted.  Hooks write none
  (`Fetcher.posts_prepareMove`, `Fetcher.posts_resume`, `Fetcher.posts_finish`).
* `Fetcher.fire_requests` — what firing writes is what it takes off the port.
* `Dispatch`, `Dispatch.run` — a ledger with the tokens that were accepted on the port.
* `Dispatch.run_dispatched` — after any steps each accepted token was written once, in order, or is
  still queued.
-/

namespace Dataflow

namespace Actors.Fetcher

open Context

/-- The configuration with which a fetcher opens its capability. -/
def timed (timeoutMs : Nat) : Value := .object [("timeout_ms", .nat timeoutMs)]

/-- The script of a fetcher. -/
def script (place : Nat) (self : Instance DeviceWorld Fetcher) : Script :=
  self.context.world.script place

/-- The values were written to the script, and counted.  If the script was opened, then with the
timeout of the fetcher. -/
structure Posts (place : Nat) (before after : Instance DeviceWorld Fetcher)
    (values : List Value) : Prop where
  timeout : after.model.timeoutMs = before.model.timeoutMs
  requests : after.model.requests = before.model.requests + values.length
  written : (script place after).written = (script place before).written ++ values
  configs : ∀ config ∈ (script place after).configs,
    config ∈ (script place before).configs ∨ config = timed before.model.timeoutMs

/-- The fetcher has counted what was written to its script, and opened it with the timeout. -/
structure Booked (place timeoutMs : Nat) (fetcher : Instance DeviceWorld Fetcher) : Prop where
  requests : fetcher.model.requests = (script place fetcher).written.length
  timeout : fetcher.model.timeoutMs = timeoutMs
  configs : ∀ config ∈ (script place fetcher).configs, config = timed timeoutMs

variable {place timeoutMs : Nat} {actor : ActorRef} {values : List Value} {accepted : List Token}
  {self after next : Instance DeviceWorld Fetcher}

theorem Posts.refl (place : Nat) (self : Instance DeviceWorld Fetcher) :
    Posts place self self [] where
  timeout := rfl
  requests := rfl
  written := (List.append_nil _).symm
  configs _ member := Or.inl member

theorem Posts.trans {more : List Value} (first : Posts place self after values)
    (second : Posts place after next more) : Posts place self next (values ++ more) where
  timeout := second.timeout.trans first.timeout
  requests := by
    rw [second.requests, first.requests, List.length_append, Nat.add_assoc]
  written := by rw [second.written, first.written, List.append_assoc]
  configs config member := by
    rcases second.configs config member with old | new
    · exact first.configs config old
    · exact Or.inr (first.timeout ▸ new)

theorem Booked.posts (h : Booked place timeoutMs self) (posts : Posts place self after values) :
    Booked place timeoutMs after where
  requests := by rw [posts.requests, posts.written, List.length_append, h.requests]
  timeout := posts.timeout.trans h.timeout
  configs config member := by
    rcases posts.configs config member with old | new
    · exact h.configs config old
    · exact h.timeout ▸ new

/-! ## Operations of the context -/

/-- What an operation writes to the script has to be counted. -/
theorem posts_of_serves {call : Call} {model : Fetcher} {context : Context DeviceWorld}
    (serves : Serves place self.context call context)
    (timeout : model.timeoutMs = self.model.timeoutMs)
    (requests : model.requests = self.model.requests + (self.context.sent place call).length)
    (configured : ∀ config ∈ self.context.configured place call,
      config = timed self.model.timeoutMs) :
    Posts place self ⟨model, context⟩ (self.context.sent place call) where
  timeout := timeout
  requests := requests
  written := serves.written
  configs config member := by
    rw [script, serves.configs] at member
    rcases List.mem_append.1 member with old | new
    · exact Or.inl old
    · exact Or.inr (configured config new)

theorem Coherent.offers (h : Coherent place actor self) (config : Value) :
    Offers place self.context.registry (.openCapability capability config) :=
  fun _ found => Or.inl (Option.some.inj (found.symm.trans h.registered))

theorem posts_acquire (h : Coherent place actor self) :
    Posts place self (acquire self).value.1 [] := by
  have serves := perform_serves h.onScript.shares
    (.openCapability capability (timed self.model.timeoutMs)) (h.offers _)
  obtain ⟨handle, context, opened, -⟩ := openCapability_onScript h.onScript h.registered
    (timed self.model.timeoutMs)
  rw [perform, opened] at serves
  have acquired : (acquire self).value.1 =
      ⟨{ self.model with handle := some handle }, context⟩ := by
    rw [acquire, Logged.value_bind, ← timed, opened]
    rfl
  rw [acquired]
  exact posts_of_serves serves rfl rfl fun config member => eq_of_mem_configured member

theorem posts_release (h : Coherent place actor self) :
    Posts place self (release self).value.1 [] := by
  rw [release]
  cases self.model.handle with
  | none => exact .refl place self
  | some handle =>
      exact posts_of_serves (perform_serves h.onScript.shares (.close handle) trivial) rfl rfl
        fun config member => by cases member

theorem posts_settleHandles (h : Coherent place actor self) (settings : Settings)
    (hook : String) : Posts place self (ActorType.settleHandles settings hook self).value [] := by
  rw [ActorType.settleHandles]
  split
  · exact .refl place self
  · cases closing : settings.closeLeakedCapabilities with
    | false => exact .refl place self
    | true =>
        exact posts_of_serves (perform_serves h.onScript.shares .closeAll trivial) rfl rfl
          fun config member => by cases member

theorem posts_runReleasingHook (h : Coherent place actor self) (settings : Settings)
    (name : String) :
    Posts place self (ActorType.runReleasingHook settings name release self).value.1 [] := by
  obtain ⟨released, ran, rests⟩ := release_rests h
  have posts := posts_release h
  rw [ran] at posts
  have settled : (ActorType.runReleasingHook settings name release self).value.1 =
      (ActorType.settleHandles settings name released).value := by
    simp only [ActorType.runReleasingHook, ActorType.runHook, Logged.value_bind, ran]
    rfl
  rw [settled]
  exact posts.trans (posts_settleHandles rests.toCoherent settings name)

theorem posts_prepareMove (h : Coherent place actor self) (settings : Settings) :
    Posts place self (type.prepareMove settings self).value.1 [] :=
  posts_runReleasingHook h settings "will_migrate"

theorem posts_finish (h : Coherent place actor self) (settings : Settings) :
    Posts place self (type.finish settings self).value.1 [] :=
  posts_runReleasingHook h settings "will_end"

theorem posts_resume (h : Coherent place actor self) :
    Posts place self (type.resume self).value.1 [] := posts_acquire h

/-- A move writes nothing, and the count and the timeout arrive. -/
theorem Travelled.posts {settings : Settings} {site arrived : Site DeviceWorld Fetcher}
    (h : Coherent place actor site.self)
    (travelled : Travelled place actor settings site arrived) :
    Posts place site.self arrived.self [] := by
  cases travelled with
  | @intro leaving ended _ model _ prepared left finished _ timeout requests _ coherent resuming =>
      have leaves := posts_prepareMove h settings
      rw [prepared] at leaves
      have ends := posts_finish left.toCoherent settings
      rw [finished] at ends
      have arrives := posts_resume coherent
      rw [resuming] at arrives
      -- what resumes is the state before the end, in the world after it
      have captured : Posts place leaving
          ⟨model, ⟨{ actor }, ended.context.registry, ended.context.world⟩⟩ [] :=
        ⟨timeout, requests, ends.written, ends.configs⟩
      exact (leaves.trans captured).trans arrives

/-! ## Firing -/

theorem holds_of_canWrite (h : self.context.OnScript place) {handle : Handle}
    (writable : self.context.canWrite handle = true) : self.context.Holds place handle := by
  cases found : self.context.table.find? handle with
  | none => simp [canWrite, found] at writable
  | some capability => exact found.trans (congrArg some (h.find? found))

theorem posts_receive (h : Coherent place actor self) (ready : readable self = true)
    (inputs : List Value) : Posts place self (receive self inputs).value.1 [] := by
  rw [readable, Bool.and_eq_true] at ready
  cases opened : self.model.handle with
  | none => simp [opened] at ready
  | some handle =>
      rw [opened, Option.any_some] at ready
      have serves := perform_serves h.onScript.shares (.read handle) trivial
      obtain ⟨value, rest, context, -, ran, -⟩ := read_onScript h.onScript ready.2
      rw [perform, ran] at serves
      simp only [receive, opened, ran]
      exact posts_of_serves serves rfl rfl fun config member => by cases member

theorem posts_request (h : Coherent place actor self) (ready : writable self = true)
    (value : Value) : Posts place self (request self [value]).value.1 [value] := by
  rw [writable] at ready
  cases opened : self.model.handle with
  | none => simp [opened] at ready
  | some handle =>
      rw [opened, Option.any_some] at ready
      have serves := perform_serves h.onScript.shares (.write handle value) trivial
      obtain ⟨context, ran, -⟩ := write_onScript h.onScript ready value
      rw [perform, ran] at serves
      have sent : self.context.sent place (.write handle value) = [value] := by
        rw [Context.sent, if_pos (holds_of_canWrite h.onScript ready), ran]
        rfl
      simp only [request, opened, List.headD_cons, ran]
      exact sent ▸ posts_of_serves serves rfl (by rw [sent]; rfl)
        fun config member => by cases member

/-- What the fetcher writes is what it reads from its port. -/
theorem response_posts (h : Coherent place actor self)
    {action : Action (Instance DeviceWorld Fetcher)}
    (listed : action ∈ (type : ActorType DeviceWorld Fetcher).actions) {store : PortStore}
    (enabled : action.Enabled actor self store) {result : ActionResult}
    (answer : action.response (type.behaviour actor) self (store.reads actor action.inputs) =
      some (after, .ok result)) :
    ∃ values, Posts place self after values ∧ store.tokensOn actor .input "url" =
      values.map Token.data ++
        (store.tokensOn actor .input "url").drop (PortCount.demand "url" action.inputs) := by
  rcases List.mem_cons.1 listed with rfl | listed
  · obtain rfl : (onModel emit self []).value.1 = after :=
      congrArg Prod.fst (Option.some.inj answer)
    exact ⟨[], ⟨rfl, rfl, (List.append_nil _).symm, fun _ member => Or.inl member⟩, rfl⟩
  · rcases List.mem_cons.1 listed with rfl | listed
    · obtain rfl : (receive self []).value.1 = after :=
        congrArg Prod.fst (Option.some.inj answer)
      exact ⟨[], posts_receive h enabled.guard [], rfl⟩
    · obtain rfl := List.mem_singleton.1 listed
      obtain ⟨queue, found, enough⟩ := enabled.tokens (.one "url") (List.mem_singleton_self _)
      have queued : store.tokensOn actor .input "url" = queue.tokens :=
        PortStore.tokensOn_of_ok found
      cases tokens : queue.tokens with
      | nil =>
          rw [Queue.length, tokens] at enough
          exact absurd enough (by decide)
      | cons token rest =>
          rw [tokens] at queued
          have reads : store.reads actor [.one "url"] = [token] := by
            simp [PortStore.reads, PortStore.nextTokens, PortCount.one, queued]
          rw [reads] at answer
          cases token with
          | exception reason => cases answer
          | data value =>
              obtain rfl : (request self [value]).value.1 = after :=
                congrArg Prod.fst (Option.some.inj answer)
              refine ⟨[value], posts_request h enabled.guard value, ?_⟩
              rw [queued]
              rfl

/-- The tokens that were accepted on `url` are those of the values that were written, then those
that are still queued. -/
structure Requested (place : Nat) (actor : ActorRef) (timeoutMs : Nat) (accepted : List Token)
    (fetcher : Instance DeviceWorld Fetcher) (store : PortStore) : Prop
    extends Booked place timeoutMs fetcher where
  accepted : accepted = (script place fetcher).written.map Token.data ++
    store.tokensOn actor .input "url"

variable {store changed : PortStore}

/-- Nothing is written, and nothing happens to the port. -/
theorem Requested.still (h : Requested place actor timeoutMs accepted self store)
    (posts : Posts place self after [])
    (same : changed.tokensOn actor .input "url" = store.tokensOn actor .input "url") :
    Requested place actor timeoutMs accepted after changed where
  toBooked := h.toBooked.posts posts
  accepted := by rw [h.accepted, posts.written, List.append_nil, same]

/-- Firing writes what it takes off the port, in the same order. -/
theorem fire_requests (place : Nat) (actor : ActorRef) (timeoutMs : Nat) (accepted : List Token) :
    ((type : ActorType DeviceWorld Fetcher).behaviour actor).Keeps fun self store =>
      Coherent place actor self ∧ store.Travels actor ∧
        Requested place actor timeoutMs accepted self store where
  clean h := h.2.1.unpeeked
  handsOn listed h handed := by
    rw [handsOn_same h.1 listed handed]
    exact h
  fails listed h fails := by
    rw [fails_same h.1 listed fails]
    exact h
  fires {action _ store produced _} listed h fires := by
    obtain ⟨coherent, travels, requested⟩ := h
    obtain ⟨result, answer, -⟩ := fires.answer
    have answered := response_answered coherent listed fires.guard answer
    obtain ⟨values, posts, taken⟩ := response_posts coherent listed fires.toEnabled answer
    cases answered with
    | served _ _ kept _ =>
        refine ⟨kept, travels.effect _ _, requested.toBooked.posts posts, ?_⟩
        have left := action.tokensOn_effect_input actor produced store "url"
        show _ = _ ++ (action.effect actor produced store).tokensOn actor .input "url"
        rw [requested.accepted, taken, posts.written, left, List.map_append, List.append_assoc]

/-! ## Without an open capability -/

/-- A handle that is not open is never ready. -/
theorem not_ready {handle : Option Handle}
    (closed : ∀ one, handle = some one → one ∉ self.context.openHandles) :
    handle.any self.context.canRead = false ∧ handle.any self.context.canWrite = false := by
  cases handle with
  | none => exact ⟨rfl, rfl⟩
  | some one =>
      have dead := dead_of_find? (HandleTable.find?_eq_none_iff.2 (closed one rfl))
      exact ⟨dead.canRead, dead.canWrite⟩

/-- Without an open capability all that firing can do is to emit what is buffered. -/
theorem fire_closed (actor : ActorRef) {context : Context DeviceWorld} {handle : Option Handle}
    (closed : ∀ one, handle = some one → one ∉ context.openHandles) :
    ((type : ActorType DeviceWorld Fetcher).behaviour actor).Keeps fun self store =>
      (self.context = context ∧ self.model.handle = handle) ∧ store.Unpeeked actor := by
  refine Behaviour.Keeps.of_answers (fun clean => clean) ?_ fun _ clean => clean.effect _ _
  rintro action self store after result listed ⟨rfl, rfl⟩ - enabled answer
  obtain ⟨unreadable, unwritable⟩ := not_ready closed
  rcases List.mem_cons.1 listed with rfl | listed
  · obtain rfl : (onModel emit self []).value.1 = after :=
      congrArg Prod.fst (Option.some.inj answer)
    exact ⟨rfl, rfl⟩
  · rcases List.mem_cons.1 listed with rfl | listed
    · have ready : readable self = true := enabled.guard
      rw [readable, unreadable, Bool.and_false] at ready
      cases ready
    · obtain rfl := List.mem_singleton.1 listed
      have ready : writable self = true := enabled.guard
      rw [writable, unwritable] at ready
      cases ready

end Actors.Fetcher

open Actors Actors.Fetcher

/-! ## Runs -/

/-- The tokens that a step puts on the port `url`: none if they are refused. -/
def FetcherStep.accepts (site : Site DeviceWorld Fetcher) : FetcherStep → List Token
  | deliver token =>
    match (site.store.deliver site.self.actor "url" token).2 with
    | .ok () => [token]
    | .error _ => []
  | _ => []

/-- The ledger of a fetcher, with the tokens that were accepted on its port `url` so far. -/
structure Dispatch where
  ledger : Ledger
  accepted : List Token := []

namespace Dispatch

/-- Performs a step; only a move can fail. -/
def step (settings : Settings) (place : Nat) (dispatch : Dispatch) (first : FetcherStep) :
    Option Dispatch :=
  (dispatch.ledger.step settings place first).map fun ledger =>
    { ledger, accepted := dispatch.accepted ++ first.accepts dispatch.ledger.site }

/-- Performs some steps, as long as none of them fails. -/
def run (settings : Settings) (place : Nat) : List FetcherStep → Dispatch → Option Dispatch
  | [], dispatch => some dispatch
  | first :: rest, dispatch => (dispatch.step settings place first).bind (run settings place rest)

variable {settings : Settings} {place timeoutMs : Nat} {actor : ActorRef}
  {dispatch next last : Dispatch}

/-- The fetcher and its ports are as a run needs them, and no request was lost or doubled. -/
structure Sound (place : Nat) (actor : ActorRef) (timeoutMs : Nat) (dispatch : Dispatch) :
    Prop where
  ledger : dispatch.ledger.Sound place actor
  requested : Requested place actor timeoutMs dispatch.accepted dispatch.ledger.site.self
    dispatch.ledger.site.store

variable {first : FetcherStep}

/-- A token that is accepted is behind those that are queued. -/
theorem requested_deliver (h : dispatch.Sound place actor timeoutMs) (token : Token) :
    Requested place actor timeoutMs
      (dispatch.accepted ++ (FetcherStep.deliver token).accepts dispatch.ledger.site)
      dispatch.ledger.site.self
      (dispatch.ledger.site.store.deliver dispatch.ledger.site.self.actor "url" token).1 := by
  rw [FetcherStep.accepts, h.ledger.fetcher.identity]
  rcases delivered : dispatch.ledger.site.store.deliver actor "url" token with ⟨store, e | _⟩
  · rw [PortStore.deliver_refused delivered, List.append_nil]
    exact h.requested
  · refine ⟨h.requested.toBooked, ?_⟩
    rw [PortStore.tokensOn_deliver delivered, h.requested.accepted, List.append_assoc]

theorem requested_fire (h : dispatch.Sound place actor timeoutMs) (limit : Nat) :
    Requested place actor timeoutMs dispatch.accepted
      (dispatch.ledger.site.fire type limit).1.self
      (dispatch.ledger.site.fire type limit).1.store := by
  rw [Site.fire, ActorType.fire, h.ledger.fetcher.identity]
  cases ran : ((type.behaviour actor).fire limit dispatch.ledger.site.self
      dispatch.ledger.site.store).value with
  | none => exact h.requested
  | some outcome =>
      have start := And.intro h.ledger.fetcher (And.intro h.ledger.ports h.requested)
      exact (Behaviour.fire_keeps (fire_requests place actor timeoutMs _) start ran).2.2

theorem posts_onScript {self : Instance DeviceWorld Fetcher} (h : Coherent place actor self)
    (change : Script → Script) (written : ∀ script, (change script).written = script.written)
    (configs : ∀ script, (change script).configs = script.configs) :
    Posts place self (Ledger.onScript place change self) [] := by
  have changed : script place (Ledger.onScript place change self) =
      change (script place self) := DeviceWorld.script_setScript h.onScript.placed _
  refine ⟨rfl, rfl, ?_, fun config member => ?_⟩
  · rw [changed, written, List.append_nil]
  · rw [changed, configs] at member
    exact Or.inl member

/-- A step that writes nothing and leaves the port `url` alone. -/
theorem Sound.still (h : dispatch.Sound place actor timeoutMs)
    {after : Instance DeviceWorld Fetcher} {store : PortStore}
    (quiet : first.accepts dispatch.ledger.site = [])
    (posts : Posts place dispatch.ledger.site.self after [])
    (same : store.tokensOn actor .input "url" =
      dispatch.ledger.site.store.tokensOn actor .input "url") :
    Requested place actor timeoutMs (dispatch.accepted ++ first.accepts dispatch.ledger.site)
      after store := by
  rw [quiet, List.append_nil]
  exact h.requested.still posts same

theorem requested_step (h : dispatch.Sound place actor timeoutMs)
    {ledger : Ledger} (stepped : dispatch.ledger.step settings place first = some ledger) :
    Requested place actor timeoutMs (dispatch.accepted ++ first.accepts dispatch.ledger.site)
      ledger.site.self ledger.site.store := by
  have fetcher := h.ledger.fetcher
  cases first with
  | deliver token =>
      cases stepped
      exact requested_deliver h token
  | push value =>
      cases stepped
      exact h.still rfl (posts_onScript fetcher (·.push value) (fun _ => rfl) fun _ => rfl) rfl
  | setWritable writable =>
      cases stepped
      let change : Script → Script := fun script => { script with writable }
      exact h.still rfl (posts_onScript fetcher change (fun _ => rfl) fun _ => rfl) rfl
  | fire limit =>
      cases stepped
      have fired := requested_fire h limit
      rw [← List.append_nil dispatch.accepted] at fired
      exact fired
  | drain =>
      cases stepped
      refine h.still rfl (.refl place _) ?_
      rw [← fetcher.identity]
      exact PortStore.tokensOn_drain_input _ _ _ _
  | willMigrate =>
      cases stepped
      exact h.still rfl (posts_prepareMove fetcher settings) rfl
  | didMigrate =>
      cases stepped
      exact h.still rfl (posts_resume fetcher) rfl
  | move =>
      obtain ⟨arrived, moved, rfl⟩ := Option.map_eq_some_iff.1 stepped
      obtain ⟨arrived', moved', travelled⟩ := relocate_travelled fetcher h.ledger.ports
        (small_of_relocate fetcher moved) settings
      obtain rfl : arrived = arrived' := by simpa [moved] using moved'
      refine h.still rfl (travelled.posts fetcher) ?_
      rw [PortStore.tokensOn, PortStore.tokensOn,
        PortStore.queue_congr travelled.arrives.ports]

theorem Sound.step (h : dispatch.Sound place actor timeoutMs) (valid : first.Valid)
    (stepped : dispatch.step settings place first = some next) :
    next.Sound place actor timeoutMs := by
  obtain ⟨ledger, ran, rfl⟩ := Option.map_eq_some_iff.1 stepped
  exact ⟨Ledger.step_sound h.ledger valid ran, requested_step h ran⟩

theorem Sound.run (h : dispatch.Sound place actor timeoutMs) {steps : List FetcherStep}
    (valid : ∀ step ∈ steps, step.Valid) (ran : dispatch.run settings place steps = some last) :
    last.Sound place actor timeoutMs := by
  induction steps generalizing dispatch with
  | nil =>
      cases ran
      exact h
  | cons first rest ih =>
      obtain ⟨next, stepped, ran⟩ := Option.bind_eq_some_iff.1 ran
      exact ih (h.step (valid first (List.mem_cons_self ..)) stepped)
        (fun step member => valid step (List.mem_cons_of_mem _ member)) ran

/-! ## Requests arrive once and in order -/

/-- A fetcher that was just started with this timeout, on a new script and with new queues. -/
structure Fresh (place : Nat) (actor : ActorRef) (timeoutMs : Nat) (dispatch : Dispatch) :
    Prop where
  started : ∃ registry world idle config timeout,
    registry.factories.get? capability = some (Device.script place).factory ∧
    place < world.scripts.length ∧ world.script place = {} ∧
    (type.create actor registry world).value = .ok idle ∧
    Decoder.record ["timeout_ms"] config = some [timeout] ∧
    Decoder.unsigned 64 timeout = some timeoutMs ∧
    (type.start idle config).value = (dispatch.ledger.site.self, .ok ())
  ports : dispatch.ledger.site.store.Vacant actor
  pushed : dispatch.ledger.pushed = []
  drained : dispatch.ledger.drained = []
  accepted : dispatch.accepted = []

theorem Fresh.ledger (h : dispatch.Fresh place actor timeoutMs) :
    dispatch.ledger.Fresh place actor := by
  obtain ⟨registry, world, idle, config, timeout, registered, placed, fresh, created, -, -,
    started⟩ := h.started
  have unread : dispatch.ledger.pushed = (world.script place).reads := by rw [h.pushed, fresh]
  exact
    { started := ⟨registry, world, idle, config, registered, placed, unread, created, started⟩
      ports := h.ports
      valid := by
        rw [h.pushed]
        exact fun value member => by cases member
      drained := h.drained }

/-- A fetcher that has started has opened its script, with its timeout. -/
theorem Fresh.booked (h : dispatch.Fresh place actor timeoutMs) :
    Booked place timeoutMs dispatch.ledger.site.self ∧
      (script place dispatch.ledger.site.self).written = [] := by
  obtain ⟨registry, world, idle, config, timeout, registered, placed, fresh, created, field,
    decoded, started⟩ := h.started
  obtain rfl : ⟨managed.default, ⟨{ actor }, registry, world⟩⟩ = idle :=
    Except.ok.inj ((value_create registered).symm.trans created)
  have coherent : Coherent place actor
      ⟨{ managed.default with timeoutMs }, ⟨{ actor }, registry, world⟩⟩ :=
    { identity := rfl
      registered := registered
      onScript := ⟨placed, fun entry member => by cases member⟩
      timeout := Codec.lt_of_decode_unsigned decoded
      response := fun value present => by cases present
      unread := by
        rw [Context.unread, fresh]
        exact fun value member => by cases member }
  have configured : (type : ActorType DeviceWorld Fetcher).init config =
      some fun self => acquire { self with model := { self.model with timeoutMs } } := by
    simp [type, init, field, decoded]
  have opened := posts_acquire coherent
  have ran : (acquire ⟨{ managed.default with timeoutMs }, ⟨{ actor }, registry, world⟩⟩).value.1 =
      dispatch.ledger.site.self := by
    rw [ActorType.start, configured] at started
    exact congrArg Prod.fst started
  rw [ran] at opened
  have new : script place ⟨{ managed.default with timeoutMs }, ⟨{ actor }, registry, world⟩⟩ =
      {} := fresh
  refine ⟨Booked.posts ⟨?_, rfl, ?_⟩ opened, ?_⟩
  · rw [new]
    rfl
  · rw [new]
    exact fun config member => by cases member
  · rw [opened.written, new]
    rfl

theorem Fresh.sound (h : dispatch.Fresh place actor timeoutMs) :
    dispatch.Sound place actor timeoutMs := by
  obtain ⟨booked, written⟩ := h.booked
  refine ⟨h.ledger.sound, booked, ?_⟩
  rw [h.accepted, written, h.ports.tokensOn]
  rfl

/-- Each request was sent once and in order, and the fetcher has counted them. -/
structure Dispatched (place : Nat) (actor : ActorRef) (timeoutMs : Nat) (settings : Settings)
    (dispatch : Dispatch) : Prop where
  /-- What was accepted on `url` was written, or is still queued behind that. -/
  accepted : dispatch.accepted =
    (script place dispatch.ledger.site.self).written.map Token.data ++
      dispatch.ledger.site.store.tokensOn actor .input "url"
  /-- An exception token stays where it is, and so does everything behind it. -/
  blocked : ∀ before reason behind,
    dispatch.accepted = before ++ .exception reason :: behind →
      ∃ waiting, dispatch.ledger.site.store.tokensOn actor .input "url" =
        waiting ++ .exception reason :: behind
  requests : dispatch.ledger.site.self.model.requests =
    (script place dispatch.ledger.site.self).written.length
  configs : ∀ config ∈ (script place dispatch.ledger.site.self).configs,
    config = timed timeoutMs
  /-- Without an open capability firing leaves everything outside the fetcher alone. -/
  closed : (∀ handle, dispatch.ledger.site.self.model.handle = some handle →
      handle ∉ dispatch.ledger.site.self.context.openHandles) →
    ∀ limit, (dispatch.ledger.site.fire type limit).1.self.context =
      dispatch.ledger.site.self.context
  /-- A move succeeds as long as the count has not outgrown its type. -/
  moves : dispatch.ledger.site.self.model.requests < 2 ^ 64 →
    ∃ moved, dispatch.step settings place .move = some moved

theorem Sound.dispatched (h : dispatch.Sound place actor timeoutMs) (settings : Settings) :
    dispatch.Dispatched place actor timeoutMs settings where
  accepted := h.requested.accepted
  blocked before reason behind same := by
    rw [h.requested.accepted] at same
    rcases List.append_eq_append_iff.1 same with ⟨waiting, -, queued⟩ | ⟨late, sent, queued⟩
    · exact ⟨waiting, queued⟩
    · cases late with
      | nil => exact ⟨[], queued.symm⟩
      | cons token rest =>
          -- only data tokens are sent
          obtain rfl := (List.cons.inj queued).1
          have there : Token.exception reason ∈
              (script place dispatch.ledger.site.self).written.map Token.data :=
            sent ▸ List.mem_append_right _ (List.mem_cons_self ..)
          obtain ⟨value, -, same⟩ := List.mem_map.1 there
          cases same
  requests := h.requested.requests
  configs := h.requested.configs
  closed shut limit := by
    rw [Site.fire, ActorType.fire, h.ledger.fetcher.identity]
    cases ran : ((type.behaviour actor).fire limit dispatch.ledger.site.self
        dispatch.ledger.site.store).value with
    | none => rfl
    | some outcome =>
        exact (Behaviour.fire_keeps (fire_closed actor shut)
          ⟨⟨rfl, rfl⟩, h.ledger.ports.unpeeked⟩ ran).1.1
  moves small := by
    obtain ⟨arrived, moved, -⟩ := relocate_travelled h.ledger.fetcher h.ledger.ports small settings
    rw [Dispatch.step, Ledger.step, moved]
    exact ⟨_, rfl⟩

/-- Whatever happens to a fetcher, its requests reach the script once and in order. -/
theorem run_dispatched (fresh : dispatch.Fresh place actor timeoutMs) (settings : Settings)
    {steps : List FetcherStep} (valid : ∀ step ∈ steps, step.Valid)
    (ran : dispatch.run settings place steps = some last) :
    last.Dispatched place actor timeoutMs settings :=
  (fresh.sound.run valid ran).dispatched settings

/-! ## A run with a move -/

/-- A new fetcher with ports for its requests and its responses. -/
def opening : Dispatch where
  ledger :=
    { site :=
        { self := Ledger.opening.site.self
          store := (Ledger.opening.site.store.addPort 0 ⟨"f"⟩ .input "url"
            (some (.bounded 3))).value.1 }
      pushed := []
      drained := [] }

theorem fresh_opening : opening.Fresh 0 ⟨"f"⟩ 5 where
  started := ⟨Ledger.idle.context.registry, { scripts := [{}] }, Ledger.idle,
    .object [("timeout_ms", .int 5)], .int 5, rfl, by decide, rfl, rfl, rfl, rfl, rfl⟩
  ports := Ledger.fresh_opening.ports.addPort (by simp [Capacity.Portable]) 0 .input "url"
  pushed := rfl
  drained := rfl
  accepted := rfl

/-- Two requests, before and after a move, and an exception token that holds up a third. -/
def requests : List FetcherStep :=
  [.deliver (.data (.int 1)), .setWritable true, .fire 9, .move, .deliver (.data (.int 2)),
    .deliver (.exception "lost"), .deliver (.data (.int 3)), .fire 9, .willMigrate, .fire 9]

/-- The two are sent, the third stays behind the exception token. -/
theorem opening_dispatched : opening.Fresh 0 ⟨"f"⟩ 5 ∧
    ∃ last, opening.run {} 0 requests = some last ∧ last.Dispatched 0 ⟨"f"⟩ 5 {} ∧
      last.accepted = [.data (.int 1), .data (.int 2), .exception "lost", .data (.int 3)] ∧
      (script 0 last.ledger.site.self).written = [.int 1, .int 2] := by
  have valid : ∀ step ∈ requests, step.Valid := by
    intro step member
    simp only [requests, List.mem_cons, List.not_mem_nil, or_false] at member
    rcases member with rfl | rfl | rfl | rfl | rfl | rfl | rfl | rfl | rfl | rfl <;>
      first | exact trivial | exact ⟨by decide, by decide⟩
  obtain ⟨last, ran, accepted, written⟩ : ∃ last, opening.run {} 0 requests = some last ∧
      last.accepted = [.data (.int 1), .data (.int 2), .exception "lost", .data (.int 3)] ∧
      (script 0 last.ledger.site.self).written = [.int 1, .int 2] := ⟨_, rfl, rfl, rfl⟩
  exact ⟨fresh_opening, last, ran, run_dispatched fresh_opening {} valid ran, accepted, written⟩

end Dispatch

end Dataflow
