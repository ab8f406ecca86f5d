import Dataflow.Actor.Lifecycle
import Dataflow.Proofs.Firing.Invariant
import Dataflow.Proofs.Firing.Simulation
import Dataflow.Proofs.Port.Portable
import Dataflow.Proofs.Port.Run
import Dataflow.Proofs.Snapshot.RoundTrip

/-!
# Actors that move from site to site

An actor at work together with the store that holds its ports is a site.  The host works it with
deliveries, drains, calls and captures, and now and then moves it to another host: a snapshot and
the detached ports travel in their portable form, and a new actor is restored from them over an
empty store.

* `Site.run` — operations one after the other, with their answers.
* `Site.travel` — the same with moves in between, each of which may fail.
* `ActorType.Relocatable` — what a type has to promise so that moves go unnoticed.
* `Site.travel_eq_run` — no move fails, and the answers are those of the run without the moves.
-/

namespace Dataflow

variable {W σ : Type}

/-! ## Sites -/

/-- An actor at work, and the store that holds its ports. -/
structure Site (W σ : Type) where
  self : Instance W σ
  store : PortStore

/-- What a host does with an actor where it is. -/
inductive Operation where
  | deliver (port : String) (token : Token)
  | drain (port : String)
  | fire (limit : Nat)
  | snapshot

/-- What an operation answers. -/
inductive OperationAnswer where
  | delivered (result : Except PortError Unit)
  | drained (result : Except PortError (List Token))
  /-- The outcome of a call; there is none if its limit was too low. -/
  | fired (result : Option (Except FiringError FireReport))
  | captured (result : Except SnapshotError Snapshot)

/-- Where an actor moves to. -/
structure Host (W : Type) where
  settings : Settings
  registry : Registry W
  world : W

/-- A step of a run with moves. -/
inductive TravelStep (W : Type) where
  | operate (operation : Operation)
  | move (host : Host W)

namespace Site

/-- Lets the actor fire.  A call that does not come to an end leaves no site to go on with, so the
site stays as it was. -/
def fire (type : ActorType W σ) (limit : Nat) (site : Site W σ) : Site W σ × OperationAnswer :=
  match (type.fire limit site.self site.store).value with
  | none => (site, .fired none)
  | some outcome => (⟨outcome.state, outcome.ports⟩, .fired (some outcome.result))

/-- Performs an operation. -/
def perform (type : ActorType W σ) (site : Site W σ) : Operation → Site W σ × OperationAnswer
  | .deliver port token =>
    let (store, result) := site.store.deliver site.self.actor port token
    ({ site with store }, .delivered result)
  | .drain port =>
    let (store, result) := site.store.drain site.self.actor port
    ({ site with store }, .drained result)
  | .fire limit => site.fire type limit
  | .snapshot => (site, .captured (type.capture site.self))

/-- Performs operations one after the other. -/
def run (type : ActorType W σ) : List Operation → Site W σ → Site W σ × List OperationAnswer
  | [], site => (site, [])
  | operation :: rest, site =>
    let (site, answer) := site.perform type operation
    let (last, answers) := run type rest site
    (last, answer :: answers)

/-- The actor's fields have a property at every point of a run. -/
def Throughout (type : ActorType W σ) (property : σ → Prop) :
    List Operation → Site W σ → Prop
  | [], site => property site.self.model
  | operation :: rest, site =>
    property site.self.model ∧ Throughout type property rest (site.perform type operation).1

/-- The store on arrival: empty, but for the ports that the actor brings in their portable form. -/
def unpack (actor : ActorRef) : Option PortSet → Option PortStore
  | none => some {}
  | some ports =>
    (PortSet.ofValue? ports.toValue).map fun ports => ({} : PortStore).attach actor ports

/-- Restores a snapshot into a new actor of the same identity. -/
def arrive (type : ActorType W σ) (host : Host W) (actor : ActorRef) (snapshot : Snapshot)
    (store : PortStore) : Option (Site W σ) :=
  match (type.create actor host.registry host.world).value with
  | .error _ => none
  | .ok idle =>
    match (type.restore host.settings idle snapshot).value with
    | (_, .error _) => none
    | (self, .ok ()) => some ⟨self, store⟩

/-- Moves the actor with its ports, both by way of their portable forms. -/
def move (type : ActorType W σ) (host : Host W) (site : Site W σ) : Option (Site W σ) :=
  match type.capture site.self with
  | .error _ => none
  | .ok snapshot =>
    (Snapshot.ofValue? snapshot.toValue).bind fun snapshot =>
      (unpack site.self.actor (site.store.detach site.self.actor).2).bind fun store =>
        arrive type host site.self.actor snapshot store

/-- Performs operations with moves in between, if all of these succeed. -/
def travel (type : ActorType W σ) :
    List (TravelStep W) → Site W σ → Option (Site W σ × List OperationAnswer)
  | [], site => some (site, [])
  | .operate operation :: rest, site =>
    let (site, answer) := site.perform type operation
    (travel type rest site).map fun (last, answers) => (last, answer :: answers)
  | .move host :: rest, site => (site.move type host).bind (travel type rest)

end Site

/-- The operations of a run, without its moves. -/
def TravelStep.operations : List (TravelStep W) → List Operation
  | [] => []
  | .operate operation :: rest => operation :: operations rest
  | .move _ :: rest => operations rest

/-! ## Ports that can travel -/

/-- The values of data tokens are valid. -/
def Token.Valid : Token → Prop
  | data value => value.Valid
  | exception _ => True

/-- An operation brings in valid tokens only. -/
def Operation.Valid : Operation → Prop
  | deliver _ token => token.Valid
  | _ => True

namespace PortStore

/-- What the queues of an actor's ports have to be like for a move: nothing is handed out, the
capacities fit, and the tokens waiting to be read are valid. -/
def Travels (actor : ActorRef) (store : PortStore) : Prop :=
  ∀ direction port queue, store.queue actor direction port = .ok queue →
    queue.pending = 0 ∧ queue.capacity.Portable ∧
      (direction = .input → ∀ token ∈ queue.tokens, token.Valid)

variable {store : PortStore} {actor : ActorRef}

/-- The queues of an actor's ports are new, with capacities that fit. -/
def Vacant (actor : ActorRef) (store : PortStore) : Prop :=
  ∀ direction port queue, store.queue actor direction port = .ok queue →
    ∃ capacity : Capacity, capacity.Portable ∧ queue = Queue.new capacity

theorem vacant_empty : ({} : PortStore).Vacant actor := fun _ _ _ found => by cases found

/-- Ports that are added to a store are new. -/
theorem Vacant.addPort (h : store.Vacant actor) {capacity : Capacity} (portable : capacity.Portable)
    (size : Nat) (direction : Direction) (port : String) :
    (store.addPort size actor direction port (some capacity)).value.1.Vacant actor := by
  cases before : store.queue actor direction port with
  | ok queue =>
      rw [PortStore.addPort_of_ok before, Logged.value_pure]
      exact h
  | error e =>
      obtain ⟨given, asked, added⟩ := PortStore.addPort_of_error before size (some capacity)
      cases asked capacity rfl
      rw [added]
      intro other name queue found
      rw [queue_setQueue_eq_ok_iff] at found
      split at found
      · exact ⟨capacity, portable, found.symm⟩
      · exact h other name queue found

theorem Vacant.travels (h : store.Vacant actor) : store.Travels actor := by
  intro direction port queue found
  obtain ⟨capacity, portable, rfl⟩ := h direction port queue found
  exact ⟨rfl, portable, fun _ token member => by cases member⟩

theorem Vacant.tokensOn (h : store.Vacant actor) (direction : Direction) (port : String) :
    store.tokensOn actor direction port = [] := by
  cases found : store.queue actor direction port with
  | error e => rw [PortStore.tokensOn, found]
  | ok queue =>
      obtain ⟨capacity, -, rfl⟩ := h direction port queue found
      exact tokensOn_of_ok found

theorem Travels.unpeeked (h : store.Travels actor) : store.Unpeeked actor :=
  fun port queue found => (h .input port queue found).1

/-- Changes of queues that keep what a move needs. -/
theorem Travels.mapSide (h : store.Travels actor) {side : Direction}
    {change : String → Queue → Queue}
    (kept : ∀ port queue, store.queue actor side port = .ok queue →
      (change port queue).pending = queue.pending ∧
      (change port queue).capacity = queue.capacity ∧
      (side = .input → ∀ token ∈ (change port queue).tokens,
        token ∈ queue.tokens ∨ token.Valid)) :
    (store.mapSide actor side change).Travels actor := by
  intro direction port queue found
  rw [queue_mapSide] at found
  by_cases here : direction = side
  · subst here
    rw [if_pos ⟨rfl, rfl⟩] at found
    cases before : store.queue actor direction port with
    | error e => rw [before] at found; cases found
    | ok old =>
        rw [before] at found
        cases found
        obtain ⟨settled, portable, valid⟩ := h direction port old before
        obtain ⟨pending, capacity, tokens⟩ := kept port old before
        refine ⟨pending.trans settled, capacity ▸ portable, fun input token member => ?_⟩
        rcases tokens input token member with there | new
        · exact valid input token there
        · exact new
  · rw [if_neg fun both => here both.2] at found
    exact h direction port queue found

theorem Travels.effect {S : Type} (h : store.Travels actor) (action : Action S)
    (values : List Value) : (action.effect actor values store).Travels actor := by
  have consumed : (store.consume actor action.inputs).Travels actor := by
    refine h.mapSide fun port queue _ => ⟨rfl, rfl, fun _ token member => ?_⟩
    exact Or.inl (List.mem_of_mem_drop member)
  refine consumed.mapSide fun port queue _ => ⟨rfl, rfl, fun input => ?_⟩
  cases input

theorem Travels.deliver (h : store.Travels actor) (port : String) {token : Token}
    (valid : token.Valid) : (store.deliver actor port token).1.Travels actor := by
  rw [PortStore.deliver, fst_onQueue]
  refine h.mapSide fun name queue _ => ?_
  by_cases here : name = port
  · rw [onlyAt, if_pos here, fst_append]
    by_cases room : queue.slotsAvailable 1 = true
    · rw [if_pos room]
      refine ⟨rfl, rfl, fun _ added member => ?_⟩
      rcases List.mem_append.1 member with there | new
      · exact Or.inl there
      · rw [List.mem_singleton.1 new]
        exact Or.inr valid
    · rw [if_neg room]
      exact ⟨rfl, rfl, fun _ _ member => Or.inl member⟩
  · rw [onlyAt, if_neg here]
    exact ⟨rfl, rfl, fun _ _ member => Or.inl member⟩

theorem Travels.drain (h : store.Travels actor) (port : String) :
    (store.drain actor port).1.Travels actor := by
  rw [PortStore.drain, fst_onQueue]
  refine h.mapSide fun name queue _ => ?_
  by_cases here : name = port
  · rw [onlyAt, if_pos here]
    refine ⟨rfl, rfl, fun input => ?_⟩
    cases input
  · rw [onlyAt, if_neg here]
    exact ⟨rfl, rfl, fun _ _ member => Or.inl member⟩

theorem mem_nextTokens {cursor : String → Nat} {inputs : List PortCount} {token : Token}
    (h : token ∈ store.nextTokens actor cursor inputs) :
    ∃ input ∈ inputs, token ∈ store.tokensOn actor .input input.port := by
  induction inputs generalizing cursor with
  | nil => cases h
  | cons input rest ih =>
      rcases List.mem_append.1 h with here | later
      · have taken := List.mem_of_mem_drop (List.mem_of_mem_take here)
        exact ⟨input, List.mem_cons_self .., taken⟩
      · obtain ⟨other, member, there⟩ := ih later
        exact ⟨other, List.mem_cons_of_mem _ member, there⟩

/-- The values that an action reads are valid. -/
theorem Travels.valid_reads (h : store.Travels actor) (inputs : List PortCount) :
    ∀ value ∈ (store.reads actor inputs).filterMap Token.value?, value.Valid := by
  intro value member
  obtain ⟨token, read, carried⟩ := List.mem_filterMap.1 member
  obtain ⟨input, -, there⟩ := mem_nextTokens read
  cases token with
  | exception reason => cases carried
  | data value' =>
      cases carried
      cases found : store.queue actor .input input.port with
      | error e =>
          simp only [tokensOn, found] at there
          cases there
      | ok queue =>
          rw [tokensOn_of_ok found] at there
          exact (h .input input.port queue found).2.2 rfl _ there

/-- It is only the actor's own ports that count. -/
theorem Travels.congr {other : PortStore} (h : store.Travels actor)
    (same : SamePorts actor store other) : other.Travels actor := by
  intro direction port queue found
  rw [← queue_congr same] at found
  exact h direction port queue found

/-- Ports that can travel have a portable form, and settling changes nothing about them. -/
theorem Travels.portable (h : store.Travels actor) {ports : PortSet}
    (known : store.ports? actor = some ports) : ports.Portable ∧ ports.settle = ports := by
  have travels : ∀ direction port queue,
      (ports.side direction).get? port = some queue →
        queue.pending = 0 ∧ queue.capacity.Portable := by
    intro direction port queue found
    obtain ⟨settled, portable, -⟩ :=
      h direction port queue (queue_eq_ok_iff.2 ⟨ports, known, found⟩)
    exact ⟨settled, portable⟩
  exact ⟨fun direction port queue found => (travels direction port queue found).2,
    PortSet.settle_eq_self fun direction port queue found =>
      (travels direction port queue found).1⟩

/-- The ports of an actor arrive as they left. -/
theorem Travels.unpack (h : store.Travels actor) :
    ∃ arrived, Site.unpack actor (store.detach actor).2 = some arrived ∧
      SamePorts actor store arrived := by
  rw [detach]
  cases known : store.ports? actor with
  | none => exact ⟨{}, rfl, known⟩
  | some ports =>
      obtain ⟨portable, settled⟩ := h.portable known
      refine ⟨({} : PortStore).attach actor ports, ?_, ?_⟩
      · simp only [Site.unpack, PortSet.ofValue?_toValue portable, settled, Option.map_some]
      · rw [SamePorts, known, attach, ports?_setPorts_self, settled]

end PortStore

/-! ## Types whose actors can move -/

namespace ActorType

/-- The same actor with the same managed fields. -/
def SameManaged (type : ActorType W σ) (here there : Instance W σ) : Prop :=
  type.managed.fields.Agree here.model there.model ∧ here.actor = there.actor

/-- What a type promises so that moves of its actors go unnoticed.  Its actors need no capability.
Their guards, bodies and handlers look at managed fields only, and keep the fields `sound`; fields
that are sound and have not outgrown their types (`fits`) survive being captured. -/
structure Relocatable (type : ActorType W σ) (sound fits : σ → Prop) : Prop where
  requires : type.requires = []
  resumes : type.didMigrate = Hook.none
  lawful : type.managed.fields.Lawful
  keeps : ∀ {model}, sound model → fits model → type.managed.fields.Keeps model
  actions : ∀ action ∈ type.actions, action.Respects type.SameManaged
  onException : ∀ {here there}, type.SameManaged here there → ∀ name reason,
    Alike type.SameManaged (type.onException here name reason).value
      (type.onException there name reason).value
  soundActions : ∀ action ∈ type.actions, ∀ {self : Instance W σ}, sound self.model →
    ∀ {values : List Value}, (∀ value ∈ values, value.Valid) →
      sound (action.body self values).value.1.model ∧
        (action.body self values).value.1.actor = self.actor
  soundHandler : ∀ {self : Instance W σ}, sound self.model → ∀ name reason,
    sound (type.onException self name reason).value.1.model ∧
      (type.onException self name reason).value.1.actor = self.actor

variable {type : ActorType W σ} {sound fits : σ → Prop}

theorem Relocatable.respects (h : type.Relocatable sound fits) (actor : ActorRef) :
    (type.behaviour actor).Respects type.SameManaged where
  actions := h.actions
  onException := h.onException

/-- The answers of the actor keep its fields sound, and its identity. -/
theorem Relocatable.answers (h : type.Relocatable sound fits) {actor : ActorRef}
    {action : Action (Instance W σ)} (listed : action ∈ type.actions) {self after : Instance W σ}
    {tokens : List Token} {result : Except Failure ActionResult}
    (valid : ∀ value ∈ tokens.filterMap Token.value?, value.Valid)
    (answer : action.response (type.behaviour actor) self tokens = some (after, result))
    (start : sound self.model ∧ self.actor = actor) :
    sound after.model ∧ after.actor = actor := by
  rw [Action.response] at answer
  split at answer
  · rename_i reason _
    obtain ⟨kept, same⟩ := h.soundHandler start.1 action.name reason
    simp only [behaviour, Option.some.injEq] at answer
    rw [answer] at kept same
    exact ⟨kept, same.trans start.2⟩
  · split at answer
    · obtain ⟨kept, same⟩ := h.soundActions action listed start.1 valid
      simp only [Option.some.injEq] at answer
      rw [answer] at kept same
      exact ⟨kept, same.trans start.2⟩
    · cases answer

/-- Firing keeps what a move needs. -/
theorem Relocatable.fire_keeps (h : type.Relocatable sound fits) (actor : ActorRef) :
    (type.behaviour actor).Keeps fun self store =>
      (sound self.model ∧ self.actor = actor) ∧ store.Travels actor :=
  Behaviour.Keeps.of_answers PortStore.Travels.unpeeked
    (fun listed start travels _ answer =>
      h.answers listed (travels.valid_reads _) answer start)
    (fun _ travels => travels.effect _ _)

end ActorType

/-! ## One step -/

namespace Site

/-- It is the given actor, its fields are sound, and its ports can travel. -/
structure Sound (sound : σ → Prop) (actor : ActorRef) (site : Site W σ) : Prop where
  model : sound site.self.model
  identity : site.self.actor = actor
  ports : site.store.Travels actor

/-- The same actor with the same managed fields and the same ports. -/
structure Matches (type : ActorType W σ) (here there : Site W σ) : Prop where
  self : type.SameManaged here.self there.self
  ports : PortStore.SamePorts here.self.actor here.store there.store

theorem Matches.refl (type : ActorType W σ) (site : Site W σ) : site.Matches type site :=
  ⟨⟨ManagedFields.Agree.refl _ _, rfl⟩, rfl⟩

variable {type : ActorType W σ} {sound fits : σ → Prop} {actor : ActorRef}
  {here there : Site W σ}

theorem Sound.fire (h : type.Relocatable sound fits) (start : here.Sound sound actor)
    (limit : Nat) : (here.fire type limit).1.Sound sound actor := by
  rw [Site.fire, ActorType.fire, start.identity]
  cases ran : ((type.behaviour actor).fire limit here.self here.store).value with
  | none => exact start
  | some outcome =>
      obtain ⟨⟨kept, same⟩, travels⟩ := Behaviour.fire_keeps (h.fire_keeps actor)
        ⟨⟨start.model, start.identity⟩, start.ports⟩ ran
      exact ⟨kept, same, travels⟩

/-- An operation keeps the site fit for a move. -/
theorem Sound.perform (h : type.Relocatable sound fits) (start : here.Sound sound actor)
    {operation : Operation} (valid : operation.Valid) :
    (here.perform type operation).1.Sound sound actor := by
  obtain ⟨model, identity, ports⟩ := start
  cases operation with
  | deliver port token =>
      refine ⟨model, identity, ?_⟩
      show (here.store.deliver here.self.actor port token).1.Travels actor
      rw [identity]
      exact ports.deliver port valid
  | drain port =>
      refine ⟨model, identity, ?_⟩
      show (here.store.drain here.self.actor port).1.Travels actor
      rw [identity]
      exact ports.drain port
  | fire limit => exact Sound.fire h ⟨model, identity, ports⟩ limit
  | snapshot => exact ⟨model, identity, ports⟩

theorem Sound.run (h : type.Relocatable sound fits) (start : here.Sound sound actor)
    {operations : List Operation} (valid : ∀ operation ∈ operations, operation.Valid) :
    (here.run type operations).1.Sound sound actor := by
  induction operations generalizing here with
  | nil => exact start
  | cons operation rest ih =>
      have next := start.perform h (valid operation (List.mem_cons_self ..))
      exact ih next fun other member => valid other (List.mem_cons_of_mem _ member)

/-- A call at matching sites. -/
theorem Matches.fire (h : type.Relocatable sound fits) (start : here.Sound sound actor)
    (same : here.Matches type there) (limit : Nat) :
    Alike (Matches type) (here.fire type limit) (there.fire type limit) := by
  have identity : there.self.actor = actor := same.self.2.symm.trans start.identity
  have ports := same.ports
  have kept := start.fire h limit
  rw [start.identity] at ports
  have calls := Behaviour.fire_alike (PortStore.alike_ports? actor) (h.respects actor) limit
    same.self ports
  rw [Site.fire, ActorType.fire, start.identity] at kept ⊢
  rw [Site.fire, ActorType.fire, identity]
  generalize ((type.behaviour actor).fire limit here.self here.store).value = first
    at calls kept ⊢
  generalize ((type.behaviour actor).fire limit there.self there.store).value = second
    at calls ⊢
  cases calls with
  | unfinished => exact ⟨same, rfl⟩
  | finished alike =>
      have ports := alike.ports
      rw [← kept.identity] at ports
      refine ⟨⟨alike.state, ports⟩, ?_⟩
      show OperationAnswer.fired _ = OperationAnswer.fired _
      rw [alike.result]

/-- An operation at matching sites. -/
theorem Matches.perform (h : type.Relocatable sound fits) (start : here.Sound sound actor)
    (same : here.Matches type there) (operation : Operation) :
    Alike (Matches type) (here.perform type operation) (there.perform type operation) := by
  have identity := same.self.2
  cases operation with
  | deliver port token =>
      obtain ⟨ports, answer⟩ := PortStore.onQueue_alike same.ports .input port
        (PortStore.append here.self.actor port token)
      rw [Site.perform, Site.perform, PortStore.deliver, PortStore.deliver, ← identity]
      exact ⟨⟨same.self, ports⟩, congrArg OperationAnswer.delivered answer⟩
  | drain port =>
      obtain ⟨ports, answer⟩ := PortStore.onQueue_alike same.ports .output port
        fun queue => (queue.drain.1, .ok queue.drain.2)
      rw [Site.perform, Site.perform, PortStore.drain, PortStore.drain, ← identity]
      exact ⟨⟨same.self, ports⟩, congrArg OperationAnswer.drained answer⟩
  | fire limit => exact Matches.fire h start same limit
  | snapshot =>
      have captured : type.capture here.self = type.capture there.self := by
        rw [ActorType.capture, ActorType.capture, ManagedType.state, ManagedType.state,
          ManagedFields.state, ManagedFields.state, ManagedFields.capture_congr same.self.1,
          identity]
      exact ⟨same, congrArg OperationAnswer.captured captured⟩

end Site

/-! ## A move -/

/-- With a state that can be restored, an actor resumes. -/
theorem ActorType.value_restore {type : ActorType W σ} {settings : Settings}
    {self : Instance W σ} {snapshot : Snapshot} {model : σ}
    (same : snapshot.actorType = type.name)
    (ran : (type.managed.setState settings.rejectUnknownFields self.model
      snapshot.managed).value = (model, .ok ())) :
    (type.restore settings self snapshot).value = (type.resume { self with model }).value := by
  have expected : ¬snapshot.actorType ≠ type.name := fun other => other same
  rw [restore, if_neg expected]
  by_cases stranger : snapshot.actor ≠ self.actor
  · simp only [if_pos stranger, Logged.value_bind, ran]
    rfl
  · simp only [if_neg stranger, Logged.value_bind, ran]
    rfl

namespace Site

variable {type : ActorType W σ} {sound fits : σ → Prop} {actor : ActorRef}
  {here there : Site W σ}

/-- An actor with sound fields can be captured, and restored anywhere with the same managed fields,
and with the defaults of the others. -/
theorem exists_arrival (h : type.Relocatable sound fits) {self : Instance W σ}
    (keeps : type.managed.fields.Keeps self.model) (host : Host W) :
    ∃ snapshot arrived, type.capture self = .ok snapshot ∧ type.SameManaged self arrived ∧
      type.managed.fields.Untouched type.managed.default arrived.model ∧
      ∀ store, arrive type host self.actor snapshot store = some ⟨arrived, store⟩ := by
  obtain ⟨state, captured, restored⟩ := ManagedFields.setState_state h.lawful keeps
  obtain ⟨model, ran, arrives⟩ :=
    restored host.settings.rejectUnknownFields type.managed.name type.managed.default
  have snapshot : type.capture self = .ok ⟨type.name, self.actor, state⟩ := by
    rw [ActorType.capture, ManagedType.state, captured]
    rfl
  have created : (type.create self.actor host.registry host.world).value =
      .ok ⟨type.managed.default, ⟨{ actor := self.actor }, host.registry, host.world⟩⟩ := by
    rw [ActorType.create, h.requires]
    rfl
  have restoring : (type.restore host.settings
      ⟨type.managed.default, ⟨{ actor := self.actor }, host.registry, host.world⟩⟩
      ⟨type.name, self.actor, state⟩).value =
        (type.resume ⟨model, ⟨{ actor := self.actor }, host.registry, host.world⟩⟩).value :=
    ActorType.value_restore rfl ran
  have resumed : (type.resume
      ⟨model, ⟨{ actor := self.actor }, host.registry, host.world⟩⟩).value =
        (⟨model, ⟨{ actor := self.actor }, host.registry, host.world⟩⟩, .ok ()) := by
    rw [ActorType.resume, h.resumes]
    rfl
  refine ⟨_, ⟨model, ⟨{ actor := self.actor }, host.registry, host.world⟩⟩, snapshot,
    ⟨arrives, rfl⟩, ManagedFields.setState_untouched ran, fun store => ?_⟩
  simp only [arrive, created, restoring, resumed]

/-- A move succeeds, and the site that the actor arrives at matches the one that it left. -/
theorem Matches.move (h : type.Relocatable sound fits) (start : here.Sound sound actor)
    (small : fits here.self.model) (same : here.Matches type there) (host : Host W) :
    ∃ arrived, there.move type host = some arrived ∧ here.Matches type arrived := by
  obtain ⟨agree, identity⟩ := same.self
  obtain ⟨snapshot, self, captured, ⟨arrives, kept⟩, -, arrival⟩ :=
    exists_arrival h ((h.keeps start.model small).congr agree) host
  have travels := (start.identity ▸ start.ports : here.store.Travels here.self.actor).congr
    same.ports
  obtain ⟨store, unpacked, ports⟩ := travels.unpack
  rw [identity] at unpacked
  refine ⟨⟨self, store⟩, ?_, ⟨⟨agree.trans arrives, identity.trans kept⟩, same.ports.trans ports⟩⟩
  simp only [Site.move, captured, Snapshot.ofValue?_toValue, Option.bind_some, unpacked, arrival]

/-! ## Runs with moves -/

theorem Throughout.now {property : σ → Prop} {operations : List Operation}
    (h : here.Throughout type property operations) : property here.self.model := by
  cases operations with
  | nil => exact h
  | cons operation rest => exact h.1

/-- No move fails, and the answers are those of the run without the moves, as long as the actor
does not outgrow the types of its fields in that run. -/
theorem travel_eq_run (h : type.Relocatable sound fits) (start : here.Sound sound actor)
    (same : here.Matches type there) (steps : List (TravelStep W))
    (valid : ∀ operation ∈ TravelStep.operations steps, operation.Valid)
    (small : here.Throughout type fits (TravelStep.operations steps)) :
    ∃ last, there.travel type steps =
      some (last, (here.run type (TravelStep.operations steps)).2) := by
  induction steps generalizing here there with
  | nil => exact ⟨there, rfl⟩
  | cons step rest ih =>
      cases step with
      | operate operation =>
          obtain ⟨after, answer⟩ := same.perform h start operation
          have kept := start.perform h (valid operation (List.mem_cons_self ..))
          obtain ⟨last, travelled⟩ := ih kept after
            (fun other member => valid other (List.mem_cons_of_mem _ member)) small.2
          refine ⟨last, ?_⟩
          simp only [travel, travelled, Option.map_some, TravelStep.operations, run, answer]
      | move host =>
          obtain ⟨arrived, moved, matched⟩ := same.move h start small.now host
          obtain ⟨last, travelled⟩ := ih start matched valid small
          refine ⟨last, ?_⟩
          simp only [travel, moved, Option.bind_some, travelled, TravelStep.operations]

end Site

end Dataflow
