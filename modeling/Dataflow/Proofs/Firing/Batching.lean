import Dataflow.Actors.Flow
import Dataflow.Proofs.Firing.SingleAction
import Dataflow.Proofs.Port.Passage

/-!
# Batches do not matter

A host delivers tokens to an actor, fires it and drains its out-ports in whatever order it likes.
If the actor has a single action, takes tokens with every firing and always finds room for what it
produces, all that counts is which tokens came to each in-port, and that it is fired in the end.

Each run is compared with one in which nothing is ever delivered or drained: the store that has
all tokens still to come behind those that are queued, and all tokens drained so far in front of
those that are not, `PortStore.whole`.  Deliveries and drains do not change it, and a firing does
to it what it does to the store itself, since an action reads the oldest tokens only.

* `Work`, `Bench` — what a host does to an actor, and what comes of it.
* `Action.Equipped` — the ports of an actor whose out-ports have no bound; `Behaviour.Reliable` —
  an actor that never fails.
* `Action.Fires.whole`, `Action.Rests.whole` — firings of the store are firings of the whole one.
* `Bench.Progress` — some work is some firings of the whole store; `Bench.run_progress`.
* `Bench.runs_agree` — runs with the same deliveries come to the same.  With a peek pending at the
  start they may not: `Bench.peeked_runs_differ`.
-/

namespace Dataflow

open PortCount

/-! ## Work on an actor -/

/-- What a host does to an actor. -/
inductive Work where
  | deliver (port : String) (token : Token)
  | drain (port : String)
  | fire

/-- An actor at work, with a record of what came of the work so far. -/
structure Bench (S : Type) where
  state : S
  store : PortStore
  /-- What the calls answered, in order. -/
  calls : List (Option (Except FiringError FireReport)) := []
  /-- What the drains returned, in order. -/
  drained : List (String × List Token) := []
  /-- The deliveries that were not accepted. -/
  refused : List (String × Token) := []

/-- The tokens for an in-port among some work. -/
def Work.delivered (port : String) : Work → List Token
  | .deliver name token => if name = port then [token] else []
  | _ => []

/-- The sequence of tokens that are delivered to an in-port. -/
def delivered (port : String) (works : List Work) : List Token :=
  works.flatMap (Work.delivered port)

namespace Bench

variable {S : Type}

/-- One piece of work. -/
def perform (behaviour : Behaviour S) (bench : Bench S) : Work → Bench S
  | .deliver port token =>
    match bench.store.deliver behaviour.actor port token with
    | (store, .ok ()) => { bench with store }
    | (store, .error _) => { bench with store, refused := bench.refused ++ [(port, token)] }
  | .drain port =>
    match bench.store.drain behaviour.actor port with
    | (store, .ok tokens) => { bench with store, drained := bench.drained ++ [(port, tokens)] }
    | (store, .error _) => { bench with store }
  | .fire =>
    match behaviour.call bench.state bench.store with
    | none => { bench with calls := bench.calls ++ [none] }
    | some ⟨state, store, result⟩ =>
      { bench with state, store, calls := bench.calls ++ [some result] }

/-- Some work, one piece after the other. -/
def run (behaviour : Behaviour S) (works : List Work) (bench : Bench S) : Bench S :=
  works.foldl (perform behaviour) bench

/-- All firings that were reported, in order. -/
def firings (bench : Bench S) : List Firing :=
  bench.calls.flatMap fun call =>
    match call with
    | some (.ok report) => report.firings
    | _ => []

/-- Everything that was drained from an out-port. -/
def drainedOn (bench : Bench S) (port : String) : List Token :=
  bench.drained.flatMap fun entry => if entry.1 = port then entry.2 else []

/-- Everything that was drained from an out-port, and what is still queued there. -/
def emitted (bench : Bench S) (actor : ActorRef) (port : String) : Except PortError (List Token) :=
  (bench.store.queue actor .output port).map fun queue => bench.drainedOn port ++ queue.tokens

/-- All calls returned, and none of them failed. -/
def Succeeded (bench : Bench S) : Prop :=
  ∀ call ∈ bench.calls, ∃ report, call = some (.ok report)

/-- The same state and in-ports, the same firings, and the same tokens on each out-port, drained or
not. -/
structure Agree (actor : ActorRef) (first second : Bench S) : Prop where
  state : first.state = second.state
  inputs : ∀ port, first.store.queue actor .input port = second.store.queue actor .input port
  firings : first.firings.map Firing.outline = second.firings.map Firing.outline
  outputs : ∀ port, first.emitted actor port = second.emitted actor port

end Bench

/-! ## The whole store -/

namespace PortStore

variable {store next : PortStore} {actor : ActorRef} {coming gone : String → List Token}
  {port : String} {queue : Queue}

/-- The store with more tokens behind those of the actor's in-ports, and more tokens in front of
those of its out-ports. -/
def whole (store : PortStore) (actor : ActorRef) (coming gone : String → List Token) : PortStore :=
  (store.mapSide actor .input fun port queue => queue.extend (coming port)).mapSide actor .output
    fun port queue => { queue with tokens := gone port ++ queue.tokens }

theorem queue_whole_input (store : PortStore) (actor : ActorRef)
    (coming gone : String → List Token) (port : String) :
    (store.whole actor coming gone).queue actor .input port =
      (store.queue actor .input port).map fun queue => queue.extend (coming port) := by
  rw [whole, queue_mapSide_of_ne _ _ (by simp), queue_mapSide, if_pos ⟨rfl, rfl⟩]

/-- When nothing more is to come, the in-ports of the whole store are those of the store. -/
theorem queue_whole_nil (store : PortStore) (actor : ActorRef) (gone : String → List Token)
    (port : String) :
    (store.whole actor (fun _ => []) gone).queue actor .input port =
      store.queue actor .input port := by
  rw [queue_whole_input]
  cases store.queue actor .input port with
  | error e => rfl
  | ok queue => rw [Except.map, Queue.extend_nil]

theorem queue_whole_output (store : PortStore) (actor : ActorRef)
    (coming gone : String → List Token) (port : String) :
    (store.whole actor coming gone).queue actor .output port =
      (store.queue actor .output port).map fun queue =>
        { queue with tokens := gone port ++ queue.tokens } := by
  rw [whole, queue_mapSide, if_pos ⟨rfl, rfl⟩, queue_mapSide_of_ne _ _ (by simp)]

/-- An in-port of the whole store. -/
theorem queue_whole_of_input (coming gone : String → List Token)
    (found : store.queue actor .input port = .ok queue) :
    (store.whole actor coming gone).queue actor .input port =
      .ok (queue.extend (coming port)) := by
  rw [queue_whole_input, found]
  rfl

/-- An out-port of the whole store. -/
theorem queue_whole_of_output (coming gone : String → List Token)
    (found : store.queue actor .output port = .ok queue) :
    (store.whole actor coming gone).queue actor .output port =
      .ok { queue with tokens := gone port ++ queue.tokens } := by
  rw [queue_whole_output, found]
  rfl

/-- The whole store has no more ports than the store. -/
theorem queue_whole_error (coming gone : String → List Token) {direction : Direction}
    {e : PortError} (missing : store.queue actor direction port = .error e) :
    (store.whole actor coming gone).queue actor direction port = .error e := by
  cases direction with
  | input => rw [queue_whole_input, missing, Except.map]
  | output => rw [queue_whole_output, missing, Except.map]

theorem queue_whole_of_ne {other : ActorRef} (h : other ≠ actor) (direction : Direction)
    (port : String) :
    (store.whole actor coming gone).queue other direction port =
      store.queue other direction port := by
  rw [whole, queue_mapSide_of_ne _ _ (by simp [h]), queue_mapSide_of_ne _ _ (by simp [h])]

/-- Wholes are the same if their queues are. -/
theorem whole_congr {coming' gone' : String → List Token}
    (others : ∀ other direction port, other ≠ actor →
      store.queue other direction port = next.queue other direction port)
    (inputs : ∀ port,
      ((store.queue actor .input port).map fun queue => queue.extend (coming port)) =
        (next.queue actor .input port).map fun queue => queue.extend (coming' port))
    (outputs : ∀ port,
      ((store.queue actor .output port).map fun queue =>
        { queue with tokens := gone port ++ queue.tokens }) =
        (next.queue actor .output port).map fun queue =>
          { queue with tokens := gone' port ++ queue.tokens }) :
    store.whole actor coming gone = next.whole actor coming' gone' := by
  refine ext_queue fun other direction port => ?_
  by_cases here : other = actor
  · subst here
    cases direction with
    | input => rw [queue_whole_input, queue_whole_input, inputs]
    | output => rw [queue_whole_output, queue_whole_output, outputs]
  · rw [queue_whole_of_ne here, queue_whole_of_ne here, others other direction port here]

/-- A delivery that is accepted changes nothing that is not already counted as still to come. -/
theorem whole_deliver {token : Token} (h : store.deliver actor port token = (next, .ok ()))
    (works : List Work) :
    store.whole actor (delivered · (.deliver port token :: works)) gone =
      next.whole actor (delivered · works) gone := by
  obtain rfl := deliver_accepted h
  refine whole_congr (fun other direction name apart => ?_) (fun name => ?_) fun name => ?_
  · rw [queue_mapSide_of_ne _ _ (by simp [apart])]
  · rw [queue_mapSide, if_pos ⟨rfl, rfl⟩]
    cases store.queue actor .input name with
    | error e => rfl
    | ok queue => simp [Except.map, delivered, Work.delivered]
  · rw [queue_mapSide_of_ne _ _ (by simp)]

/-- A drain only moves tokens to those that are counted as gone. -/
theorem whole_drain {tokens : List Token}
    (still : ∀ queue, store.queue actor .output port = .ok queue → queue.pending = 0)
    (h : store.drain actor port = (next, .ok tokens)) :
    store.whole actor coming gone =
      next.whole actor coming fun name => gone name ++ if port = name then tokens else [] := by
  obtain ⟨all, rfl⟩ := drain_answered still h
  refine whole_congr (fun other direction name apart => ?_) (fun name => ?_) fun name => ?_
  · rw [queue_mapSide_of_ne _ _ (by simp [apart])]
  · rw [queue_mapSide_of_ne _ _ (by simp)]
  · cases found : store.queue actor .output name with
    | error e => simp [queue_mapSide, found, Except.map]
    | ok queue =>
        rw [queue_mapSide_self _ found]
        by_cases here : port = name
        · subst here
          rw [tokensOn_of_ok found] at all
          simp [Except.map, all]
        · simp [Except.map, here]

/-- An action reads the oldest tokens, so that it does not matter what comes behind them. -/
theorem nextTokens_whole {inputs : List PortCount} {cursor : String → Nat}
    (h : ∀ input ∈ inputs, ∃ queue, store.queue actor .input input.port = .ok queue ∧
      cursor input.port + demand input.port inputs ≤ queue.length) :
    (store.whole actor coming gone).nextTokens actor cursor inputs =
      store.nextTokens actor cursor inputs := by
  induction inputs generalizing cursor with
  | nil => rfl
  | cons input rest ih =>
      obtain ⟨queue, found, enough⟩ := h input (List.mem_cons_self ..)
      rw [demand_cons_self, Queue.length] at enough
      have later : ∀ other ∈ rest, ∃ queue, store.queue actor .input other.port = .ok queue ∧
          cursor other.port + demand other.port [input] + demand other.port rest ≤
            queue.length := by
        intro other member
        obtain ⟨queue, found, enough⟩ := h other (List.mem_cons_of_mem _ member)
        refine ⟨queue, found, ?_⟩
        rwa [Nat.add_assoc, ← demand_append, List.singleton_append]
      have found' := queue_whole_of_input coming gone found
      rw [nextTokens, nextTokens, ih later, tokensOn_of_ok found, tokensOn_of_ok found',
        Queue.extend, List.drop_append_of_le_length (by omega),
        List.take_append_of_le_length (by rw [List.length_drop]; omega)]

theorem reads_whole {inputs : List PortCount} (h : store.Holds actor inputs) :
    (store.whole actor coming gone).reads actor inputs = store.reads actor inputs := by
  refine nextTokens_whole fun input member => ?_
  rw [Nat.zero_add]
  exact h input member

theorem Holds.whole {inputs : List PortCount} (h : store.Holds actor inputs) :
    (store.whole actor coming gone).Holds actor inputs := by
  intro input member
  obtain ⟨queue, found, enough⟩ := h input member
  refine ⟨_, queue_whole_of_input coming gone found, ?_⟩
  rw [Queue.length, Queue.extend, List.length_append]
  exact enough.trans (Nat.le_add_right ..)

/-- A port that an action does not read from is asked for nothing, and the others hold enough. -/
theorem Holds.demand_le {inputs : List PortCount} (h : store.Holds actor inputs)
    (found : store.queue actor .input port = .ok queue) :
    demand port inputs ≤ queue.tokens.length := by
  by_cases declared : port ∈ inputs.map PortCount.port
  · obtain ⟨input, member, rfl⟩ := List.mem_map.1 declared
    obtain ⟨queue', found', enough⟩ := h input member
    rw [found] at found'
    cases found'
    exact enough
  · rw [demand_eq_zero declared]
    exact Nat.zero_le _

end PortStore

namespace Action

variable {S : Type} {behaviour : Behaviour S} {action : Action S} {state after : S}
  {store : PortStore} {actor : ActorRef} {coming gone : String → List Token}
  {values : List Value}

/-! ## Actors and ports -/

/-- The ports of an action exist, its out-ports have no bound, and no token of the actor is handed
out.  With a pending peek it would matter how often the actor is fired, as a declined attempt
takes the peek back. -/
structure Equipped (actor : ActorRef) (action : Action S) (store : PortStore) : Prop where
  inputs : ∀ input ∈ action.inputs, ∃ queue, store.queue actor .input input.port = .ok queue
  outputs : ∀ output ∈ action.outputs, ∃ queue,
    store.queue actor .output output.port = .ok queue ∧ queue.capacity = .unbounded
  still : ∀ direction port queue, store.queue actor direction port = .ok queue →
    queue.pending = 0

theorem Equipped.known (h : action.Equipped actor store) : action.Known actor store where
  inputs := h.inputs
  outputs output member := (h.outputs output member).imp fun _ found => found.1

/-- A change of tokens only. -/
theorem Equipped.mapSide (h : action.Equipped actor store) (direction : Direction)
    {f : String → Queue → Queue} (capacity : ∀ port queue, (f port queue).capacity = queue.capacity)
    (pending : ∀ port queue, (f port queue).pending = queue.pending) :
    action.Equipped actor (store.mapSide actor direction f) where
  inputs input member := by
    obtain ⟨queue, found⟩ := h.inputs input member
    rw [PortStore.queue_mapSide, found]
    split <;> exact ⟨_, rfl⟩
  outputs output member := by
    obtain ⟨queue, found, unbounded⟩ := h.outputs output member
    rw [PortStore.queue_mapSide, found]
    split
    · exact ⟨_, rfl, (capacity _ _).trans unbounded⟩
    · exact ⟨_, rfl, unbounded⟩
  still way port queue found := by
    obtain ⟨old, before, rfl⟩ := PortStore.exists_of_queue_mapSide found
    split
    · rw [pending, h.still way port old before]
    · exact h.still way port old before

theorem Equipped.effect (h : action.Equipped actor store) (values : List Value) :
    action.Equipped actor (action.effect actor values store) := by
  rw [Action.effect, PortStore.produce, PortStore.consume]
  refine Equipped.mapSide (Equipped.mapSide h .input ?_ ?_) .output ?_ ?_
  all_goals exact fun _ _ => rfl

/-! ## Firings of the whole store -/

/-- What fires fires on the whole store just so: it reads the same tokens, and there is room. -/
theorem Fires.whole (fires : Fires behaviour action store state values after)
    (equipped : action.Equipped behaviour.actor store) :
    Fires behaviour action (store.whole behaviour.actor coming gone) state values after where
  guard := fires.guard
  tokens := fires.tokens.whole
  room output member := by
    obtain ⟨queue, found, unbounded⟩ := equipped.outputs output member
    refine ⟨_, PortStore.queue_whole_of_output coming gone found, ?_⟩
    simp [Queue.slotsAvailable, unbounded]
  answer := by
    rw [PortStore.reads_whole fires.tokens]
    exact fires.answer
  count := fires.count

/-- A firing does to the whole store what it does to the store. -/
theorem effect_whole (holds : store.Holds actor action.inputs) (values : List Value) :
    action.effect actor values (store.whole actor coming gone) =
      (action.effect actor values store).whole actor coming gone := by
  refine PortStore.ext_queue fun other direction port => ?_
  by_cases here : other = actor
  · subst here
    cases direction with
    | input =>
        rw [PortStore.queue_whole_input]
        cases found : store.queue other .input port with
        | error e =>
            have missing := PortStore.queue_whole_error coming gone found
            rw [queue_effect_error action values missing, queue_effect_error action values found]
            rfl
        | ok queue =>
            have found' := PortStore.queue_whole_of_input coming gone found
            rw [queue_effect_input action values found', queue_effect_input action values found]
            simp only [Except.map, Queue.extend,
              List.drop_append_of_le_length (holds.demand_le found)]
    | output =>
        rw [PortStore.queue_whole_output]
        cases found : store.queue other .output port with
        | error e =>
            have missing := PortStore.queue_whole_error coming gone found
            rw [queue_effect_error action values missing, queue_effect_error action values found]
            rfl
        | ok queue =>
            have found' := PortStore.queue_whole_of_output coming gone found
            rw [queue_effect_output action values found', queue_effect_output action values found]
            simp only [Except.map, List.append_assoc]
  · rw [queue_effect_of_ne action values here, PortStore.queue_whole_of_ne here,
      PortStore.queue_whole_of_ne here, queue_effect_of_ne action values here]

/-- When nothing more is to come, the whole store fires only what the store does. -/
theorem Fires.of_whole
    (fires : Fires behaviour action (store.whole behaviour.actor (fun _ => []) gone) state values
      after)
    (equipped : action.Equipped behaviour.actor store) :
    Fires behaviour action store state values after := by
  have holds : store.Holds behaviour.actor action.inputs := by
    intro input member
    obtain ⟨queue, found, enough⟩ := fires.tokens input member
    rw [PortStore.queue_whole_nil] at found
    exact ⟨queue, found, enough⟩
  refine ⟨⟨fires.guard, holds, fun output member => ?_⟩, ?_, fires.count⟩
  · obtain ⟨queue, found, unbounded⟩ := equipped.outputs output member
    exact ⟨queue, found, by simp [Queue.slotsAvailable, unbounded]⟩
  · obtain ⟨result, answer, produced⟩ := fires.answer
    rw [PortStore.reads_whole holds] at answer
    exact ⟨result, answer, produced⟩

theorem Rests.whole (rests : Rests behaviour action state store)
    (equipped : action.Equipped behaviour.actor store) :
    Rests behaviour action state (store.whole behaviour.actor (fun _ => []) gone) :=
  fun values after fires => rests values after (fires.of_whole equipped)

theorem Firings.whole {produced : List (List Value)} {last : S} {final : PortStore}
    (h : Firings behaviour action state store produced last final)
    (equipped : action.Equipped behaviour.actor store) :
    Firings behaviour action state (store.whole behaviour.actor coming gone) produced last
      (final.whole behaviour.actor coming gone) := by
  induction h with
  | nil => exact .nil _ _
  | cons fires _ ih =>
      refine .cons (fires.whole equipped) ?_
      rw [effect_whole fires.tokens]
      exact ih (equipped.effect _)

end Action

/-! ## Reliable actors -/

/-- The body and the handler never fail and never produce a wrong number of values, and the actor
stays as it is when they decline.  This is asked of what they are called with only. -/
structure Behaviour.Reliable {S : Type} (behaviour : Behaviour S) (action : Action S) : Prop where
  body : ∀ state values, action.open? state = true → values.length = size action.inputs →
    action.accepts state values = true → action.Honors state (action.body state values).value
  handler : ∀ state reason, action.open? state = true →
    action.Honors state (behaviour.onException state action.name reason).value

/-- Without an exception token among them, all tokens carry values. -/
theorem Token.length_values {tokens : List Token} (plain : tokens.findSome? Token.reason? = none) :
    (tokens.filterMap Token.value?).length = tokens.length := by
  induction tokens with
  | nil => rfl
  | cons token rest ih =>
      cases token with
      | data value =>
          have later := ih (by simpa [Token.reason?] using plain)
          simp [Token.value?, later]
      | exception reason => simp [Token.reason?] at plain

namespace Behaviour

variable {S : Type} {behaviour : Behaviour S} {action : Action S}

theorem Reliable.dependable (reliable : behaviour.Reliable action) {state : S} {store : PortStore}
    (enabled : action.Enabled behaviour.actor state store) :
    action.Dependable behaviour state (store.reads behaviour.actor action.inputs) := by
  intro answered answer
  rw [Action.response] at answer
  split at answer
  · cases answer
    exact reliable.handler state _ enabled.guard
  · rename_i plain
    split at answer
    · rename_i accepted
      cases answer
      refine reliable.body state _ enabled.guard ?_ accepted
      rw [Token.length_values plain, PortStore.length_reads enabled.tokens]
    · cases answer

/-- Calls of a reliable actor succeed, one after the other. -/
theorem Reliable.sustains (reliable : behaviour.Reliable action)
    (only : behaviour.actions = [action]) (takes : 0 < size action.inputs) :
    behaviour.Sustains action fun _ store => action.Equipped behaviour.actor store where
  only := only
  takes := takes
  clean equipped port queue found := equipped.still .input port queue found
  known equipped := equipped.known
  dependable _ enabled := reliable.dependable enabled
  fires equipped _ := equipped.effect _

end Behaviour

/-! ## Progress -/

namespace Bench

variable {S : Type} {behaviour : Behaviour S} {action : Action S}
  {bench first second third : Bench S} {coming coming' coming'' : String → List Token}

/-- From the one bench to the other there were some firings, as seen on the whole store: `coming`
and `coming'` are the tokens that were still to come then and now. -/
structure Progress (behaviour : Behaviour S) (action : Action S) (first : Bench S)
    (coming : String → List Token) (second : Bench S) (coming' : String → List Token)
    (produced : List (List Value)) : Prop where
  firings : action.Firings behaviour first.state
    (first.store.whole behaviour.actor coming first.drainedOn) produced second.state
    (second.store.whole behaviour.actor coming' second.drainedOn)
  outlines : second.firings.map Firing.outline =
    first.firings.map Firing.outline ++ List.replicate produced.length action.outline
  equipped : action.Equipped behaviour.actor second.store
  succeeded : first.Succeeded → second.Succeeded

theorem Progress.trans {produced produced' : List (List Value)}
    (h : Progress behaviour action first coming second coming' produced)
    (h' : Progress behaviour action second coming' third coming'' produced') :
    Progress behaviour action first coming third coming'' (produced ++ produced') where
  firings := h.firings.trans h'.firings
  outlines := by
    rw [h'.outlines, h.outlines, List.append_assoc, List.replicate_append_replicate,
      List.length_append]
  equipped := h'.equipped
  succeeded start := h'.succeeded (h.succeeded start)

/-- What an actor has emitted is what is on the out-ports of the whole store. -/
theorem emitted_eq_whole (bench : Bench S) (actor : ActorRef) (coming : String → List Token)
    (port : String) :
    bench.emitted actor port =
      ((bench.store.whole actor coming bench.drainedOn).queue actor .output port).map
        Queue.tokens := by
  rw [PortStore.queue_whole_output, emitted]
  cases bench.store.queue actor .output port <;> rfl

/-- Refused deliveries stay on record. -/
theorem refused_perform (behaviour : Behaviour S) (bench : Bench S) (work : Work) :
    bench.refused <+: (bench.perform behaviour work).refused := by
  cases work with
  | deliver port token =>
      rw [perform]
      split
      · exact List.prefix_rfl
      · exact List.prefix_append _ _
  | drain port =>
      rw [perform]
      split <;> exact List.prefix_rfl
  | fire =>
      rw [perform]
      split <;> exact List.prefix_rfl

/-- A delivery or a drain makes no difference to the whole store. -/
theorem Progress.still {works : List Work} {work : Work} {next : PortStore}
    (equipped : action.Equipped behaviour.actor next)
    (whole : bench.store.whole behaviour.actor (delivered · (work :: works)) bench.drainedOn =
      next.whole behaviour.actor (delivered · works) second.drainedOn)
    (same : second.state = bench.state ∧ second.store = next ∧ second.calls = bench.calls) :
    Progress behaviour action bench (delivered · (work :: works)) second
      (delivered · works) [] where
  firings := by
    obtain ⟨state, store, -⟩ := same
    rw [whole, state, store]
    exact .nil _ _
  outlines := by
    rw [Bench.firings, same.2.2, List.length_nil, List.replicate_zero, List.append_nil,
      Bench.firings]
  equipped := same.2.1 ▸ equipped
  succeeded start := by
    rw [Succeeded, same.2.2]
    exact start

theorem refused_run (behaviour : Behaviour S) (works : List Work) (bench : Bench S) :
    bench.refused <+: (bench.run behaviour works).refused := by
  induction works generalizing bench with
  | nil => exact List.prefix_rfl
  | cons work rest ih => exact (refused_perform behaviour bench work).trans (ih _)

/-- A piece of work is some firings of the whole store, if it is not a delivery that is refused. -/
theorem perform_progress
    (sustains : behaviour.Sustains action fun _ store => action.Equipped behaviour.actor store)
    (equipped : action.Equipped behaviour.actor bench.store) (work : Work) (works : List Work)
    (accepted : (bench.perform behaviour work).refused = []) :
    ∃ produced, Progress behaviour action bench (delivered · (work :: works))
      (bench.perform behaviour work) (delivered · works) produced := by
  cases work with
  | deliver port token =>
      rw [perform] at accepted ⊢
      cases delivery : bench.store.deliver behaviour.actor port token with
      | mk next answer =>
          simp only [delivery] at accepted ⊢
          cases answer with
          | error e => simp at accepted
          | ok _ =>
              refine ⟨[], .still ?_ (PortStore.whole_deliver delivery works) ⟨rfl, rfl, rfl⟩⟩
              rw [PortStore.deliver_accepted delivery]
              exact equipped.mapSide .input (fun _ _ => rfl) fun _ _ => rfl
  | drain port =>
      rw [perform]
      cases drain : bench.store.drain behaviour.actor port with
      | mk next answer =>
          cases answer with
          | error e =>
              obtain rfl := PortStore.drain_failed drain
              exact ⟨[], .still equipped rfl ⟨rfl, rfl, rfl⟩⟩
          | ok tokens =>
              have still := equipped.still .output port
              refine ⟨[], .still ?_ ((PortStore.whole_drain still drain).trans ?_) ⟨rfl, rfl, rfl⟩⟩
              · rw [(PortStore.drain_answered still drain).2]
                exact equipped.mapSide .output (fun _ _ => rfl) fun _ _ => rfl
              · congr 1
                funext name
                simp [drainedOn]
  | fire =>
      obtain ⟨produced, last, final, report, ran, fired, rests, kept, outlines⟩ :=
        sustains.call equipped
      rw [perform, ran]
      refine ⟨produced, fired.whole equipped, ?_, kept, fun start => ?_⟩
      · simp [firings, outlines]
      · exact List.forall_mem_append.2 ⟨start, List.forall_mem_singleton.2 ⟨report, rfl⟩⟩

theorem run_progress
    (sustains : behaviour.Sustains action fun _ store => action.Equipped behaviour.actor store)
    (equipped : action.Equipped behaviour.actor bench.store) (works : List Work)
    (accepted : (bench.run behaviour works).refused = []) :
    ∃ produced, Progress behaviour action bench (delivered · works) (bench.run behaviour works)
      (fun _ => []) produced := by
  induction works generalizing bench with
  | nil =>
      exact ⟨[], .nil _ _, by rw [List.length_nil, List.replicate_zero, List.append_nil]; rfl,
        equipped, id⟩
  | cons work rest ih =>
      have recorded := refused_run behaviour rest (bench.perform behaviour work)
      have here : (bench.perform behaviour work).refused = [] :=
        List.prefix_nil.1 (accepted ▸ recorded)
      obtain ⟨produced, first⟩ := perform_progress sustains equipped work rest here
      obtain ⟨others, later⟩ := ih first.equipped accepted
      exact ⟨produced ++ others, first.trans later⟩

/-- After a call the action rests. -/
theorem perform_fire_rests
    (sustains : behaviour.Sustains action fun _ store => action.Equipped behaviour.actor store)
    (equipped : action.Equipped behaviour.actor bench.store) :
    let after := bench.perform behaviour .fire
    action.Rests behaviour after.state after.store := by
  obtain ⟨produced, last, final, report, ran, -, rests, -⟩ := sustains.call equipped
  have last : bench.perform behaviour .fire =
      { bench with
        state := last, store := final, calls := bench.calls ++ [some (.ok report)] } := by
    rw [perform, ran]
  rw [last]
  exact rests

/-- Work that ends with a call is, on the whole store, firings until the action rests. -/
theorem run_fire_progress
    (sustains : behaviour.Sustains action fun _ store => action.Equipped behaviour.actor store)
    (equipped : action.Equipped behaviour.actor bench.store) {works : List Work}
    (accepted : (bench.run behaviour (works ++ [.fire])).refused = []) :
    let after := bench.run behaviour (works ++ [.fire])
    ∃ produced, Progress behaviour action bench (delivered · works) after (fun _ => []) produced ∧
      action.Rests behaviour after.state
        (after.store.whole behaviour.actor (fun _ => []) after.drainedOn) := by
  have deliveries : (delivered · (works ++ [.fire])) = (delivered · works) := by
    funext port
    simp [delivered, Work.delivered]
  have last : bench.run behaviour (works ++ [.fire]) =
      (bench.run behaviour works).perform behaviour .fire := by
    rw [run, List.foldl_append]
    rfl
  obtain ⟨produced, progress⟩ := run_progress sustains equipped (works ++ [.fire]) accepted
  rw [deliveries] at progress
  refine ⟨produced, progress, Action.Rests.whole ?_ progress.equipped⟩
  have recorded := refused_perform behaviour (bench.run behaviour works) .fire
  rw [← last, accepted] at recorded
  obtain ⟨_, before⟩ := run_progress sustains equipped works (List.prefix_nil.1 recorded)
  rw [last]
  exact perform_fire_rests sustains before.equipped

/-- Runs that are the same firings of the same whole store agree. -/
theorem Progress.agree {start : Bench S} {produced : List (List Value)}
    (h : Progress behaviour action start coming first (fun _ => []) produced)
    (h' : Progress behaviour action start coming second (fun _ => []) produced)
    (state : first.state = second.state)
    (stores : first.store.whole behaviour.actor (fun _ => []) first.drainedOn =
      second.store.whole behaviour.actor (fun _ => []) second.drainedOn) :
    Agree behaviour.actor first second where
  state := state
  inputs port := by
    rw [← PortStore.queue_whole_nil first.store behaviour.actor first.drainedOn, stores,
      PortStore.queue_whole_nil]
  firings := by rw [h.outlines, h'.outlines]
  outputs port := by
    rw [emitted_eq_whole first behaviour.actor fun _ => [], stores,
      emitted_eq_whole second behaviour.actor fun _ => []]

/-- Two runs of an actor with a single action, in which each in-port gets the same tokens and the
last thing is a call, agree: it does not matter how the deliveries are cut into batches, nor when
the actor is fired in between and its out-ports are drained.  All calls succeed. -/
theorem runs_agree {start : Bench S} (only : behaviour.actions = [action])
    (takes : 0 < size action.inputs) (reliable : behaviour.Reliable action)
    (equipped : action.Equipped behaviour.actor start.store) {works works' : List Work}
    (same : ∀ port, delivered port works = delivered port works')
    (accepted : (start.run behaviour (works ++ [.fire])).refused = [])
    (accepted' : (start.run behaviour (works' ++ [.fire])).refused = []) :
    Agree behaviour.actor (start.run behaviour (works ++ [.fire]))
        (start.run behaviour (works' ++ [.fire])) ∧
      (start.Succeeded → (start.run behaviour (works ++ [.fire])).Succeeded ∧
        (start.run behaviour (works' ++ [.fire])).Succeeded) := by
  have sustains := reliable.sustains only takes
  have deliveries : (delivered · works) = (delivered · works') := funext same
  obtain ⟨produced, progress, rests⟩ := run_fire_progress sustains equipped accepted
  obtain ⟨produced', progress', rests'⟩ := run_fire_progress sustains equipped accepted'
  rw [← deliveries] at progress'
  obtain ⟨rfl, states, stores⟩ :=
    progress.firings.unique rests progress'.firings rests'
  exact ⟨progress.agree progress' states stores,
    fun fine => ⟨progress.succeeded fine, progress'.succeeded fine⟩⟩

/-- The one action of an actor that passes on what it reads. -/
def passing : Action (Instance Unit Actors.Resilient) where
  name := "pass"
  inputs := [.one "in"]
  outputs := [.one "out"]
  body := onModel fun self values => (self, .ok (.produced values))

theorem resilient_reliable (actor : ActorRef) :
    (Actors.Resilient.type.behaviour actor).Reliable passing where
  body state values _ length _ := by
    refine ⟨.produced values, rfl, nofun, ?_⟩
    rintro _ ⟨⟩
    exact length
  handler state reason _ := by
    refine ⟨.one (Actors.Resilient.recovery reason), rfl, nofun, ?_⟩
    rintro _ ⟨⟩
    rfl

/-- An actor that gets over exception tokens, with nothing to read so far. -/
def resilient : Bench (Instance Unit Actors.Resilient) where
  state := Behaviour.bareInstance ⟨"r"⟩ {}
  store := Behaviour.relayPorts ⟨"r"⟩ []

/-- Two numbers and an exception token between them, all at once. -/
def atOnce : List Work :=
  [.deliver "in" (.data (.int 5)), .deliver "in" (.exception "lost"),
    .deliver "in" (.data (.int 7))]

/-- The same tokens one by one. -/
def oneByOne : List Work :=
  [.deliver "in" (.data (.int 5)), .fire, .drain "out", .deliver "in" (.exception "lost"), .fire,
    .deliver "in" (.data (.int 7)), .drain "out"]

theorem resilient_runs_agree :
    Agree ⟨"r"⟩
        (resilient.run (Actors.Resilient.type.behaviour ⟨"r"⟩) (atOnce ++ [.fire]))
        (resilient.run (Actors.Resilient.type.behaviour ⟨"r"⟩) (oneByOne ++ [.fire])) ∧
      (resilient.run (Actors.Resilient.type.behaviour ⟨"r"⟩) (oneByOne ++ [.fire])).Succeeded ∧
      (resilient.run (Actors.Resilient.type.behaviour ⟨"r"⟩) (atOnce ++ [.fire])).firings.length =
        3 ∧
      (resilient.run (Actors.Resilient.type.behaviour ⟨"r"⟩)
        (oneByOne ++ [.fire])).state.model.recovered = ["lost"] := by
  have equipped : passing.Equipped ⟨"r"⟩ resilient.store := by
    refine ⟨?_, ?_, fun direction port queue found => by rw [Behaviour.queue_relayPorts found]⟩
    · rintro _ (_ | ⟨_, ⟨⟩⟩)
      exact ⟨_, rfl⟩
    · rintro _ (_ | ⟨_, ⟨⟩⟩)
      exact ⟨_, rfl, rfl⟩
  have same (port : String) : delivered port atOnce = delivered port oneByOne := rfl
  have accepted : (resilient.run (Actors.Resilient.type.behaviour ⟨"r"⟩)
      (atOnce ++ [.fire])).refused = [] := by decide +kernel
  have accepted' : (resilient.run (Actors.Resilient.type.behaviour ⟨"r"⟩)
      (oneByOne ++ [.fire])).refused = [] := by decide +kernel
  obtain ⟨agree, succeeded⟩ := runs_agree rfl (by decide) (resilient_reliable ⟨"r"⟩) equipped
    same accepted accepted'
  exact ⟨agree, (succeeded nofun).2, by decide +kernel, by decide +kernel⟩

/-! ## A pending peek -/

/-- The one action of an actor that passes on the number five, and nothing else. -/
def choosing : Action (Instance Unit Unit) where
  name := "pass"
  inputGuard := some fun _ values =>
    match values with
    | [.int 5] => true
    | _ => false
  inputs := [.one "in"]
  outputs := [.one "out"]
  body state values := pure (state, .ok (.produced values))

/-- An actor with that action. -/
def choosy (actor : ActorRef) : Behaviour (Instance Unit Unit) where
  actor
  actions := [choosing]
  onException state _ _ := pure (state, .ok (.fired false))

theorem choosy_reliable (actor : ActorRef) : (choosy actor).Reliable choosing where
  body state values _ length _ := by
    refine ⟨.produced values, rfl, nofun, ?_⟩
    rintro _ ⟨⟩
    exact length
  handler state reason _ := ⟨.fired false, rfl, fun _ => rfl, nofun⟩

/-- That actor, with a number five to read that was handed out already. -/
def peeked : Bench (Instance Unit Unit) where
  state := Behaviour.bareInstance ⟨"c"⟩ ()
  store := ((Behaviour.relayPorts ⟨"c"⟩ [.data (.int 5)]).peek ⟨"c"⟩ "in" 1).1

/-- If a peek is pending at the start, it matters how often the actor is fired.  The first call
finds the later token only, declines it, and with that takes the peek back; so it is the second call
that finds the earlier one. -/
theorem peeked_runs_differ :
    let works : List Work := [.deliver "in" (.data (.int 7))]
    let works' : List Work := [.deliver "in" (.data (.int 7)), .fire]
    (choosy ⟨"c"⟩).actions = [choosing] ∧ 0 < size choosing.inputs ∧
      (choosy ⟨"c"⟩).Reliable choosing ∧
      (∀ input ∈ choosing.inputs, ∃ queue,
        peeked.store.queue ⟨"c"⟩ .input input.port = .ok queue) ∧
      (∀ output ∈ choosing.outputs, ∃ queue,
        peeked.store.queue ⟨"c"⟩ .output output.port = .ok queue ∧ queue.capacity = .unbounded) ∧
      (∀ port, delivered port works = delivered port works') ∧
      (peeked.run (choosy ⟨"c"⟩) (works ++ [.fire])).refused = [] ∧
      (peeked.run (choosy ⟨"c"⟩) (works' ++ [.fire])).refused = [] ∧
      ¬Agree ⟨"c"⟩ (peeked.run (choosy ⟨"c"⟩) (works ++ [.fire]))
        (peeked.run (choosy ⟨"c"⟩) (works' ++ [.fire])) := by
  intro works works'
  have none : (peeked.run (choosy ⟨"c"⟩) (works ++ [.fire])).firings.length = 0 := by
    decide +kernel
  have one : (peeked.run (choosy ⟨"c"⟩) (works' ++ [.fire])).firings.length = 1 := by
    decide +kernel
  refine ⟨rfl, by decide, choosy_reliable ⟨"c"⟩, ?_, ?_, fun port => rfl, by decide +kernel,
    by decide +kernel, fun agree => ?_⟩
  · rintro _ (_ | ⟨_, ⟨⟩⟩)
    exact ⟨_, rfl⟩
  · rintro _ (_ | ⟨_, ⟨⟩⟩)
    exact ⟨_, rfl, rfl⟩
  · have same := congrArg List.length agree.firings
    rw [List.length_map, List.length_map, none, one] at same
    cases same

end Bench

end Dataflow
