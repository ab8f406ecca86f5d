import Dataflow.Proofs.Actor.Site
import Dataflow.Proofs.Firing.SingleAction
import Dataflow.Proofs.Port.Passage

/-!
# Actors between two ports

An actor that reads its in-port `in` and writes its out-port `out` is worked by a host: tokens are
delivered and drained, and calls let it fire, in any order.  Beside the actor a record is kept of
the tokens that were accepted and of those that were drained, of all firings, those of failing calls
included, and of what the calls answered.

What such an actor does is told by a relation: a course leads from one model to another, with the
tokens read, the tokens written and the firings made on the way.

* `Relay.run`, `Relay.travel` — the work of a host, and the same with moves in between.
* `ActorType.Streams` — each selection is a step of a course, or nothing happens in it.
* `Relay.Flow` — what was accepted and what was drained, told by a course; `Relay.Flow.run` says
  that a run follows one, and `Relay.Flow.travel` that a run with moves does.
* `Relay.Flow.run_congr` — types whose actors select alike run alike.
-/

namespace Dataflow

open PortCount

/-! ## Ports of such an actor -/

namespace PortStore

variable {store next : PortStore} {actor : ActorRef}

/-- The in-port `in` and the out-port `out` are there, and nothing is handed out. -/
structure Wired (actor : ActorRef) (store : PortStore) : Prop where
  input : ∃ queue, store.queue actor .input "in" = .ok queue
  output : ∃ queue, store.queue actor .output "out" = .ok queue ∧ queue.pending = 0
  clean : store.Unpeeked actor

theorem Advances.wired (h : Advances actor store next) (wired : store.Wired actor) :
    next.Wired actor where
  input := by
    obtain ⟨queue, found⟩ := wired.input
    obtain ⟨left, -, found⟩ := h.inputs _ queue found
    exact ⟨_, found⟩
  output := by
    obtain ⟨queue, found, still⟩ := wired.output
    obtain ⟨values, found, -⟩ := h.outputs _ queue found
    exact ⟨_, found, still⟩
  clean := h.unpeeked wired.clean

/-- A change that leaves the cursors alone. -/
theorem Wired.mapSide (wired : store.Wired actor) {direction : Direction}
    {f : String → Queue → Queue} (kept : ∀ port queue, (f port queue).pending = queue.pending) :
    (store.mapSide actor direction f).Wired actor where
  input := by
    obtain ⟨queue, found⟩ := wired.input
    rw [queue_mapSide, found]
    split <;> exact ⟨_, rfl⟩
  output := by
    obtain ⟨queue, found, still⟩ := wired.output
    rw [queue_mapSide, found]
    split
    · exact ⟨_, rfl, (kept _ _).trans still⟩
    · exact ⟨_, rfl, still⟩
  clean := wired.clean.mapSide kept

/-- An action that reads `in` and writes `out` finds its ports. -/
theorem Wired.known {S : Type} (wired : store.Wired actor) {action : Action S}
    (inputs : ∀ input ∈ action.inputs, input.port = "in")
    (outputs : ∀ output ∈ action.outputs, output.port = "out") : action.Known actor store where
  inputs input declared := by
    rw [inputs input declared]
    exact wired.input
  outputs output declared := by
    rw [outputs output declared]
    exact wired.output.imp fun _ found => found.1

/-- It is only the actor's own ports that count. -/
theorem Wired.congr (wired : store.Wired actor) (same : SamePorts actor store next) :
    next.Wired actor where
  input := by
    rw [← queue_congr same]
    exact wired.input
  output := by
    rw [← queue_congr same]
    exact wired.output
  clean port queue found := wired.clean port queue ((queue_congr same .input port).trans found)

/-- An action that asks for one token of `in` finds one there. -/
theorem Holds.exists_waiting (tokens : store.Holds actor [.one "in"]) :
    ∃ token rest, store.tokensOn actor .input "in" = token :: rest := by
  obtain ⟨queue, found, enough⟩ := tokens (.one "in") (List.mem_singleton_self _)
  cases queued : queue.tokens with
  | nil => simp [demand, PortCount.one, Queue.length, queued] at enough
  | cons token rest => exact ⟨token, rest, (tokensOn_of_ok found).trans queued⟩

/-- It reads the oldest one. -/
theorem reads_waiting {token : Token} {rest : List Token}
    (queued : store.tokensOn actor .input "in" = token :: rest) :
    store.reads actor [.one "in"] = [token] := by
  simp [reads, nextTokens, PortCount.one, queued]

theorem SamePorts.tokensOn (same : SamePorts actor store next) (direction : Direction)
    (port : String) :
    next.tokensOn actor direction port = store.tokensOn actor direction port := by
  rw [PortStore.tokensOn, PortStore.tokensOn, queue_congr same]

end PortStore

/-! ## Moves -/

namespace Site

variable {W σ : Type}

/-- Restores a snapshot of the actor into a new one, which takes over its ports. -/
def restore (type : ActorType W σ) (host : Host W) (site : Site W σ) : Option (Site W σ) :=
  match type.capture site.self with
  | .error _ => none
  | .ok snapshot =>
    (Snapshot.ofValue? snapshot.toValue).bind fun snapshot =>
      arrive type host site.self.actor snapshot site.store

/-- Detaches the ports of the actor and attaches them to another store, by way of their portable
form. -/
def rehouse (target : PortStore) (site : Site W σ) : Option (Site W σ) :=
  (site.store.detach site.self.actor).2.bind fun ports =>
    (PortSet.ofValue? ports.toValue).map fun ports =>
      { site with store := target.attach site.self.actor ports }

variable {type : ActorType W σ} {sound fits : σ → Prop} {actor : ActorRef} {site : Site W σ}

/-- Restoring succeeds, and keeps the managed fields and the ports. -/
theorem exists_restore (relocatable : type.Relocatable sound fits)
    (start : site.Sound sound actor) (small : fits site.self.model) (host : Host W) :
    ∃ self, site.restore type host = some { site with self } ∧ type.SameManaged site.self self ∧
      type.managed.fields.Untouched type.managed.default self.model := by
  obtain ⟨snapshot, self, captured, same, untouched, arrival⟩ :=
    exists_arrival relocatable (relocatable.keeps start.model small) host
  refine ⟨self, ?_, same, untouched⟩
  simp only [restore, captured, Snapshot.ofValue?_toValue, Option.bind_some, arrival]

/-- Ports that are there can be attached elsewhere as they are. -/
theorem exists_rehouse (start : site.Sound sound actor) {direction : Direction} {port : String}
    {queue : Queue} (found : site.store.queue actor direction port = .ok queue)
    (target : PortStore) :
    ∃ store, site.rehouse target = some { site with store } ∧
      PortStore.SamePorts actor site.store store := by
  obtain ⟨ports, known, -⟩ := PortStore.queue_eq_ok_iff.1 found
  obtain ⟨portable, settled⟩ := start.ports.portable known
  refine ⟨target.attach actor ports, ?_, ?_⟩
  · simp only [rehouse, start.identity, PortStore.detach, known, Option.bind_some,
      PortSet.ofValue?_toValue portable, settled, Option.map_some]
  · rw [PortStore.SamePorts, known, PortStore.attach, PortStore.ports?_setPorts_self, settled]

end Site

/-! ## The work of a host -/

/-- An actor at work, with a record of what came of it so far. -/
structure Relay (W σ : Type) where
  site : Site W σ
  /-- The tokens whose delivery was accepted, in order. -/
  accepted : List Token := []
  /-- The tokens that were drained, in order. -/
  drained : List Token := []
  /-- All firings, in order. -/
  firings : List Firing := []
  /-- What the calls answered, in order. -/
  answers : List (Option (Except FiringError FireReport)) := []

namespace Relay

variable {W σ : Type}

/-- What a host does. -/
inductive Step where
  | deliver (token : Token)
  | drain
  | fire (limit : Nat)

/-- The tokens queued on `in`. -/
def waiting (relay : Relay W σ) : List Token :=
  relay.site.store.tokensOn relay.site.self.actor .input "in"

/-- The tokens queued on `out`. -/
def written (relay : Relay W σ) : List Token :=
  relay.site.store.tokensOn relay.site.self.actor .output "out"

/-- One step.  A call with a limit that is too low does not come to an end, and the relay stays as
it was. -/
def perform (type : ActorType W σ) (relay : Relay W σ) : Step → Relay W σ
  | .deliver token =>
    match relay.site.store.deliver relay.site.self.actor "in" token with
    | (store, .ok ()) =>
      { relay with site := { relay.site with store }, accepted := relay.accepted ++ [token] }
    | (store, .error _) => { relay with site := { relay.site with store } }
  | .drain =>
    match relay.site.store.drain relay.site.self.actor "out" with
    | (store, .ok tokens) =>
      { relay with site := { relay.site with store }, drained := relay.drained ++ tokens }
    | (store, .error _) => { relay with site := { relay.site with store } }
  | .fire limit =>
    match (type.fire limit relay.site.self relay.site.store).value with
    | none => { relay with answers := relay.answers ++ [none] }
    | some ⟨self, store, result⟩ =>
      { relay with
        site := { self, store }
        firings := relay.firings ++
          (type.behaviour relay.site.self.actor).firings limit relay.site.self relay.site.store
        answers := relay.answers ++ [some result] }

/-- Several steps, one after the other. -/
def run (type : ActorType W σ) (steps : List Step) (relay : Relay W σ) : Relay W σ :=
  steps.foldl (perform type) relay

@[simp] theorem run_nil (type : ActorType W σ) (relay : Relay W σ) : relay.run type [] = relay :=
  rfl

@[simp] theorem run_cons (type : ActorType W σ) (step : Step) (rest : List Step)
    (relay : Relay W σ) :
    relay.run type (step :: rest) = (relay.perform type step).run type rest := rfl

/-- A stretch of a host's work, or a move of the actor or of its ports. -/
inductive Leg (W : Type) where
  | work (step : Step)
  /-- A new actor takes over from a snapshot, on the same ports. -/
  | restore (host : Host W)
  /-- The ports are detached, and attached to another store. -/
  | rehouse (target : PortStore)

/-- One leg; a move may fail. -/
def follow (type : ActorType W σ) (relay : Relay W σ) : Leg W → Option (Relay W σ)
  | .work step => some (relay.perform type step)
  | .restore host => (relay.site.restore type host).map fun site => { relay with site }
  | .rehouse target => (relay.site.rehouse target).map fun site => { relay with site }

/-- Several legs, one after the other, if all moves among them succeed. -/
def travel (type : ActorType W σ) : List (Leg W) → Relay W σ → Option (Relay W σ)
  | [], relay => some relay
  | leg :: rest, relay => (relay.follow type leg).bind (travel type rest)

/-- A new actor with the default model, between two empty queues of any capacities. -/
structure Fresh (type : ActorType W σ) (relay : Relay W σ) : Prop where
  model : relay.site.self.model = type.managed.default
  input : ∃ capacity, relay.site.store.queue relay.site.self.actor .input "in" =
    .ok (Queue.new capacity)
  output : ∃ capacity, relay.site.store.queue relay.site.self.actor .output "out" =
    .ok (Queue.new capacity)
  clean : relay.site.store.Unpeeked relay.site.self.actor
  unused : relay.accepted = [] ∧ relay.drained = [] ∧ relay.firings = [] ∧ relay.answers = []

/-- A relay with nothing but the two ports. -/
def between (self : Instance W σ) (input output : Capacity) : Relay W σ where
  site :=
    { self
      store := (({} : PortStore).setQueue self.actor .input "in" (Queue.new input)).setQueue
        self.actor .output "out" (Queue.new output) }

theorem queue_between {self : Instance W σ} {input output : Capacity} {direction : Direction}
    {port : String} {queue : Queue}
    (found : (between self input output).site.store.queue self.actor direction port = .ok queue) :
    queue = Queue.new input ∨ queue = Queue.new output := by
  rw [between, PortStore.queue_setQueue_eq_ok_iff] at found
  by_cases out : direction = .output ∧ port = "out"
  · rw [if_pos ⟨rfl, out⟩] at found
    exact Or.inr found.symm
  · rw [if_neg fun all => out all.2, PortStore.queue_setQueue_eq_ok_iff] at found
    by_cases input : direction = .input ∧ port = "in"
    · rw [if_pos ⟨rfl, input⟩] at found
      exact Or.inl found.symm
    · rw [if_neg fun all => input all.2] at found
      cases found

theorem fresh_between {type : ActorType W σ} {self : Instance W σ}
    (model : self.model = type.managed.default) (input output : Capacity) :
    (between self input output).Fresh type where
  model := model
  input := ⟨input, PortStore.queue_setQueue_eq_ok_iff.2
    (by simp [between, PortStore.queue_setQueue_eq_ok_iff])⟩
  output := ⟨output, PortStore.queue_setQueue_eq_ok_iff.2 (by simp [between])⟩
  clean port queue found := by
    rcases queue_between found with rfl | rfl
    · rfl
    · rfl
  unused := ⟨rfl, rfl, rfl, rfl⟩

theorem travels_between {self : Instance W σ} {input output : Capacity}
    (portable : input.Portable ∧ output.Portable) :
    (between self input output).site.store.Travels self.actor := by
  intro direction port queue found
  rcases queue_between found with rfl | rfl
  · exact ⟨rfl, portable.1, fun _ token member => by cases member⟩
  · exact ⟨rfl, portable.2, fun _ token member => by cases member⟩

end Relay

/-! ## Courses -/

/-- How an actor gets from one model to another: with which tokens read, which tokens written and
which firings. -/
abbrev Course (σ : Type) := σ → List Token → List Token → List Firing → σ → Prop

namespace ActorType

variable {W σ : Type} {type : ActorType W σ} {course : Course σ}
  {fails : ActorRef → FiringError → Prop} {self after : Instance W σ} {store next : PortStore}
  {relay : Relay W σ}

/-- What a selection comes to: a firing that is a step of a course, or nothing at all. -/
inductive Steps (course : Course σ) (fails : ActorRef → FiringError → Prop)
    (self : Instance W σ) (store : PortStore) :
    Outcome (Instance W σ) PortStore (Option Firing) → Prop
  | rest : Steps course fails self store ⟨self, store, .ok none⟩
  | failed {e : FiringError} : fails self.actor e →
      Steps course fails self store ⟨self, store, .error e⟩
  | fired {model : σ} {next : PortStore} {firing : Firing} {read written : List Token} :
      store.Advances self.actor next →
      store.tokensOn self.actor .input "in" = read ++ next.tokensOn self.actor .input "in" →
      next.tokensOn self.actor .output "out" =
        store.tokensOn self.actor .output "out" ++ written →
      course self.model read written [firing] model →
      Steps course fails self store ⟨{ self with model }, next, .ok (some firing)⟩

/-- A firing that takes its tokens off `in` and appends what it produces to `out`. -/
theorem Steps.of_fires {action : Action (Instance W σ)} {model : σ} {values : List Value}
    {firing : Firing}
    (fires : action.Fires (type.behaviour self.actor) store self values { self with model })
    (step : course self.model
      ((store.tokensOn self.actor .input "in").take (demand "in" action.inputs))
      ((PortStore.valuesFor "out" (Action.assign action.outputs values)).map Token.data)
      [firing] model) :
    Steps course fails self store
      ⟨{ self with model }, action.effect self.actor values store, .ok (some firing)⟩ := by
  have taken := Action.tokensOn_effect_input action self.actor values store "in"
  refine .fired fires.advances ?_ (Action.tokensOn_effect fires.toEnabled values "out") step
  rw [taken, List.take_append_drop]

/-- The actors of a type follow a course: one can stay where it is and be taken in parts, and each
selection is a step of it. -/
structure Streams (type : ActorType W σ) (course : Course σ)
    (fails : ActorRef → FiringError → Prop) : Prop where
  refl : ∀ model, course model [] [] [] model
  trans : ∀ {first second third read read' written written' firings firings'},
    course first read written firings second → course second read' written' firings' third →
    course first (read ++ read') (written ++ written') (firings ++ firings') third
  select : ∀ {self : Instance W σ} {store : PortStore}, store.Wired self.actor →
    Steps course fails self store ((type.behaviour self.actor).select self store).value

/-- Some firings of an actor, on a course with the tokens that the ports lost and gained. -/
structure Follows (course : Course σ) (here : Instance W σ) (store : PortStore)
    (firings : List Firing) (there : Instance W σ) (next : PortStore) : Prop where
  identity : there.actor = here.actor
  advances : store.Advances here.actor next
  follows : ∃ read written,
    store.tokensOn here.actor .input "in" = read ++ next.tokensOn here.actor .input "in" ∧
    next.tokensOn here.actor .output "out" =
      store.tokensOn here.actor .output "out" ++ written ∧
    course here.model read written firings there.model

theorem Streams.completed (streams : type.Streams course fails) {actor : ActorRef}
    {firings : List Firing}
    (h : Behaviour.Completed (type.behaviour actor) self store firings after next)
    (identity : self.actor = actor) (wired : store.Wired actor) :
    Follows course self store firings after next := by
  induction h with
  | nil self store =>
      exact ⟨rfl, .refl _ _, [], [], rfl, (List.append_nil _).symm, streams.refl _⟩
  | @cons self middle last store moved final firing firings selected _ ih =>
      subst identity
      have steps := streams.select wired
      rw [selected] at steps
      cases steps with
      | @fired model _ _ read written advances taken given step =>
          obtain ⟨same, advances', read', written', taken', given', course'⟩ :=
            ih rfl (advances.wired wired)
          refine ⟨same, advances.trans advances', read ++ read', written ++ written', ?_, ?_,
            streams.trans step course'⟩
          · rw [taken, List.append_assoc]
            exact congrArg (read ++ ·) taken'
          · rw [← List.append_assoc, ← given]
            exact given'

/-- A call follows a course, and if it fails then in one of the ways in which selections do. -/
theorem Streams.fire (streams : type.Streams course fails) (wired : store.Wired self.actor)
    {limit : Nat} {result : Except FiringError FireReport}
    (h : (type.fire limit self store).value = some ⟨after, next, result⟩) :
    Follows course self store ((type.behaviour self.actor).firings limit self store) after next ∧
      ∀ e, result = .error e → fails self.actor e := by
  obtain ⟨rest, end', completed, ended⟩ := Behaviour.fire_firings h
  have follows := streams.completed completed rfl wired
  have wired' := follows.advances.wired wired
  rw [← follows.identity] at wired'
  have steps := streams.select wired'
  rw [follows.identity] at steps
  rcases ended with ⟨settled, rfl⟩ | ⟨e, failed, rfl⟩
  · rw [settled] at steps
    cases steps
    exact ⟨follows, nofun⟩
  · rw [failed] at steps
    cases steps with
    | failed fails =>
        rw [follows.identity] at fails
        refine ⟨follows, ?_⟩
        rintro _ ⟨⟩
        exact fails

/-- Actors of another type select as those of this one do. -/
def SelectsAs (other type : ActorType W σ) : Prop :=
  ∀ {self : Instance W σ} {store : PortStore}, store.Wired self.actor →
    ((other.behaviour self.actor).select self store).value =
      ((type.behaviour self.actor).select self store).value

/-- Types whose actors select alike are not told apart by calls. -/
theorem Streams.fireFrom_congr (streams : type.Streams course fails) {other : ActorType W σ}
    (alike : other.SelectsAs type) {actor : ActorRef} (identity : self.actor = actor)
    (wired : store.Wired actor) (limit : Nat) (report : FireReport) :
    ((other.behaviour actor).fireFrom limit report self store).value =
        ((type.behaviour actor).fireFrom limit report self store).value ∧
      (other.behaviour actor).firings limit self store =
        (type.behaviour actor).firings limit self store := by
  induction limit generalizing report self store with
  | zero => exact ⟨rfl, rfl⟩
  | succ limit ih =>
      subst identity
      have steps := streams.select wired
      have same := alike wired
      simp only [Behaviour.fireFrom, Behaviour.firings, Logged.value_bind, same]
      generalize ((type.behaviour self.actor).select self store).value = outcome at steps
      cases steps with
      | rest => exact ⟨rfl, rfl⟩
      | failed => exact ⟨rfl, rfl⟩
      | @fired model next firing _ _ advances =>
          have identity : ({ self with model } : Instance W σ).actor = self.actor := rfl
          obtain ⟨calls, firings⟩ := ih identity (advances.wired wired) (report.record firing)
          exact ⟨calls, congrArg (firing :: ·) firings⟩

end ActorType

/-! ## Runs -/

namespace Relay

variable {W σ : Type} {type : ActorType W σ} {course : Course σ}
  {fails : ActorRef → FiringError → Prop} {start : σ} {actor : ActorRef} {relay : Relay W σ}

/-- What was accepted is what was read on a course, followed by what is queued on `in`; what was
written on that course was drained, or is queued on `out`. -/
structure Flow (course : Course σ) (fails : ActorRef → FiringError → Prop) (start : σ)
    (actor : ActorRef) (relay : Relay W σ) : Prop where
  identity : relay.site.self.actor = actor
  wired : relay.site.store.Wired actor
  follows : ∃ read written, relay.accepted = read ++ relay.waiting ∧
    relay.drained ++ relay.written = written ∧
    course start read written relay.firings relay.site.self.model
  answers : ∀ e, some (.error e) ∈ relay.answers → fails actor e

theorem Fresh.flow (streams : type.Streams course fails) (fresh : relay.Fresh type) :
    relay.Flow course fails type.managed.default relay.site.self.actor where
  identity := rfl
  wired := by
    obtain ⟨capacity, input⟩ := fresh.input
    obtain ⟨capacity', output⟩ := fresh.output
    exact ⟨⟨_, input⟩, ⟨_, output, rfl⟩, fresh.clean⟩
  follows := by
    obtain ⟨capacity, input⟩ := fresh.input
    obtain ⟨capacity', output⟩ := fresh.output
    obtain ⟨accepted, drained, firings, -⟩ := fresh.unused
    refine ⟨[], [], ?_, ?_, ?_⟩
    · rw [accepted, waiting, PortStore.tokensOn_of_ok input]
      rfl
    · rw [drained, written, PortStore.tokensOn_of_ok output]
      rfl
    · rw [firings, fresh.model]
      exact streams.refl _
  answers e member := by
    rw [fresh.unused.2.2.2] at member
    cases member

/-- A token that is accepted is queued behind the others. -/
theorem Flow.deliver (flow : relay.Flow course fails start actor) (token : Token) :
    (relay.perform type (.deliver token)).Flow course fails start actor := by
  obtain ⟨identity, wired, ⟨read, written, accepted, drained, followed⟩, answers⟩ := flow
  simp only [perform, identity]
  obtain ⟨next, e | _, delivery⟩ : ∃ next answer,
      relay.site.store.deliver actor "in" token = (next, answer) := ⟨_, _, rfl⟩
  · obtain rfl := PortStore.deliver_refused delivery
    rw [delivery]
    exact ⟨identity, wired, ⟨read, written, accepted, drained, followed⟩, answers⟩
  · have queued := PortStore.tokensOn_deliver delivery
    obtain rfl := PortStore.deliver_accepted delivery
    rw [delivery]
    refine ⟨identity, wired.mapSide fun _ _ => rfl, ⟨read, written, ?_, ?_, followed⟩, answers⟩
    · simp only [waiting, identity] at accepted ⊢
      rw [queued, accepted, List.append_assoc]
    · simp only [Relay.written, identity] at drained ⊢
      rw [PortStore.tokensOn, PortStore.queue_mapSide_of_ne _ _ (by simp), ← drained,
        PortStore.tokensOn]

/-- What is drained was queued on `out`. -/
theorem Flow.drain (flow : relay.Flow course fails start actor) :
    (relay.perform type .drain).Flow course fails start actor := by
  obtain ⟨identity, wired, ⟨read, written, accepted, drained, followed⟩, answers⟩ := flow
  simp only [perform, identity]
  obtain ⟨next, e | tokens, drain⟩ : ∃ next answer,
      relay.site.store.drain actor "out" = (next, answer) := ⟨_, _, rfl⟩
  · obtain rfl := PortStore.drain_failed drain
    rw [drain]
    exact ⟨identity, wired, ⟨read, written, accepted, drained, followed⟩, answers⟩
  · obtain ⟨queue, found, still⟩ := wired.output
    have unread := PortStore.tokensOn_drain_input relay.site.store actor "out" "in"
    rw [drain] at unread ⊢
    obtain ⟨all, rfl⟩ := PortStore.drain_answered (fun other there => by
      rw [found] at there
      cases there
      exact still) drain
    refine ⟨identity, wired.mapSide fun _ _ => rfl, ⟨read, written, ?_, ?_, followed⟩, answers⟩
    · simp only [waiting, identity] at accepted ⊢
      rw [accepted, unread]
    · simp only [Relay.written, identity] at drained ⊢
      rw [PortStore.tokensOn_of_ok (PortStore.queue_mapSide_self _ found), ← drained, all]
      simp

/-- A call goes on with the course. -/
theorem Flow.fire (streams : type.Streams course fails)
    (flow : relay.Flow course fails start actor) (limit : Nat) :
    (relay.perform type (.fire limit)).Flow course fails start actor := by
  obtain ⟨identity, wired, ⟨read, written, accepted, drained, followed⟩, answers⟩ := flow
  subst identity
  simp only [perform]
  cases ran : (type.fire limit relay.site.self relay.site.store).value with
  | none =>
      refine ⟨rfl, wired, ⟨read, written, accepted, drained, followed⟩, fun e member => ?_⟩
      rcases List.mem_append.1 member with before | now
      · exact answers e before
      · cases List.mem_singleton.1 now
  | some outcome =>
      obtain ⟨self, store, result⟩ := outcome
      obtain ⟨⟨same, advances, read', written', taken, given, others⟩, failures⟩ :=
        streams.fire wired ran
      refine ⟨same, advances.wired wired, ⟨read ++ read', written ++ written', ?_, ?_,
        streams.trans followed others⟩, fun e member => ?_⟩
      · simp only [waiting, same] at accepted ⊢
        rw [accepted, taken, List.append_assoc]
      · simp only [Relay.written, same] at drained ⊢
        rw [given, ← drained, List.append_assoc]
      · rcases List.mem_append.1 member with before | now
        · exact answers e before
        · exact failures e (Option.some.inj (List.mem_singleton.1 now)).symm

theorem Flow.perform (streams : type.Streams course fails)
    (flow : relay.Flow course fails start actor) (step : Step) :
    (relay.perform type step).Flow course fails start actor := by
  cases step with
  | deliver token => exact flow.deliver token
  | drain => exact flow.drain
  | fire limit => exact flow.fire streams limit

/-- Whatever is done to a relay, it follows a course. -/
theorem Flow.run (streams : type.Streams course fails)
    (flow : relay.Flow course fails start actor) (steps : List Step) :
    (relay.run type steps).Flow course fails start actor := by
  induction steps generalizing relay with
  | nil => exact flow
  | cons step rest ih => exact ih (flow.perform streams step)

/-! ## Runs with moves -/

/-- What a step does where the actor is. -/
def Step.operation : Step → Operation
  | .deliver token => .deliver "in" token
  | .drain => .drain "out"
  | .fire limit => .fire limit

theorem site_perform (step : Step) :
    (relay.perform type step).site = (relay.site.perform type step.operation).1 := by
  cases step with
  | deliver token =>
      simp only [perform, Step.operation, Site.perform]
      obtain ⟨next, e | _⟩ := relay.site.store.deliver relay.site.self.actor "in" token
      · rfl
      · rfl
  | drain =>
      simp only [perform, Step.operation, Site.perform]
      obtain ⟨next, e | tokens⟩ := relay.site.store.drain relay.site.self.actor "out"
      · rfl
      · rfl
  | fire limit =>
      simp only [perform, Step.operation, Site.perform, Site.fire]
      cases (type.fire limit relay.site.self relay.site.store).value with
      | none => rfl
      | some outcome => rfl

/-- A leg delivers a valid token if it delivers one at all. -/
def Leg.Valid : Leg W → Prop
  | .work step => step.operation.Valid
  | _ => True

/-- The same actor with the same fields and the same ports is on the same course. -/
theorem Flow.resite (flow : relay.Flow course fails start actor) {site : Site W σ}
    (identity : site.self.actor = actor) (model : site.self.model = relay.site.self.model)
    (ports : PortStore.SamePorts actor relay.site.store site.store) :
    ({ relay with site } : Relay W σ).Flow course fails start actor where
  identity := identity
  wired := flow.wired.congr ports
  follows := by
    obtain ⟨read, written, accepted, drained, followed⟩ := flow.follows
    refine ⟨read, written, ?_, ?_, model ▸ followed⟩
    · simp only [waiting, flow.identity] at accepted
      simpa only [waiting, identity, ports.tokensOn] using accepted
    · simp only [Relay.written, flow.identity] at drained
      simpa only [Relay.written, identity, ports.tokensOn] using drained
  answers := flow.answers

section Travel

variable {sound : σ → Prop}

/-- A leg succeeds and goes on with the course, if all fields are managed ones. -/
theorem Flow.follow (streams : type.Streams course fails)
    (relocatable : type.Relocatable sound fun _ => True)
    (full : ∀ {here there}, type.managed.fields.Agree here there → here = there)
    (flow : relay.Flow course fails start actor) (fit : relay.site.Sound sound actor)
    {leg : Leg W} (valid : leg.Valid) :
    ∃ next, relay.follow type leg = some next ∧ next.Flow course fails start actor ∧
      next.site.Sound sound actor := by
  cases leg with
  | work step =>
      refine ⟨_, rfl, flow.perform streams step, ?_⟩
      rw [site_perform]
      exact fit.perform relocatable valid
  | restore host =>
      obtain ⟨self, restored, ⟨agree, same⟩, -⟩ :=
        Site.exists_restore relocatable fit trivial host
      have model := full agree
      have identity := same.symm.trans fit.identity
      refine ⟨{ relay with site := { relay.site with self } }, ?_,
        flow.resite identity model.symm rfl, ?_⟩
      · rw [Relay.follow, restored, Option.map_some]
      · exact ⟨model ▸ fit.model, identity, fit.ports⟩
  | rehouse target =>
      obtain ⟨queue, found⟩ := flow.wired.input
      obtain ⟨store, attached, same⟩ := Site.exists_rehouse fit found target
      refine ⟨{ relay with site := { relay.site with store } }, ?_,
        flow.resite fit.identity rfl same, ?_⟩
      · rw [Relay.follow, attached, Option.map_some]
      · exact ⟨fit.model, fit.identity, fit.ports.congr same⟩

/-- All moves of a run succeed, and it follows a course from its beginning to its end. -/
theorem Flow.travel (streams : type.Streams course fails)
    (relocatable : type.Relocatable sound fun _ => True)
    (full : ∀ {here there}, type.managed.fields.Agree here there → here = there)
    (flow : relay.Flow course fails start actor) (fit : relay.site.Sound sound actor)
    (legs : List (Leg W)) (valid : ∀ leg ∈ legs, leg.Valid) :
    ∃ last, relay.travel type legs = some last ∧ last.Flow course fails start actor ∧
      last.site.Sound sound actor := by
  induction legs generalizing relay with
  | nil => exact ⟨relay, rfl, flow, fit⟩
  | cons leg rest ih =>
      obtain ⟨next, followed, flow, fit⟩ :=
        flow.follow streams relocatable full fit (valid leg (List.mem_cons_self ..))
      obtain ⟨last, travelled, reached⟩ :=
        ih flow fit fun other member => valid other (List.mem_cons_of_mem _ member)
      refine ⟨last, ?_, reached⟩
      rw [Relay.travel, followed, Option.bind_some, travelled]

end Travel

/-! ## Runs of types that select alike -/

theorem Flow.perform_congr (streams : type.Streams course fails) {other : ActorType W σ}
    (alike : other.SelectsAs type) (flow : relay.Flow course fails start actor) (step : Step) :
    relay.perform other step = relay.perform type step := by
  cases step with
  | deliver token => rfl
  | drain => rfl
  | fire limit =>
      obtain ⟨calls, firings⟩ := streams.fireFrom_congr alike flow.identity flow.wired limit {}
      simp only [Relay.perform, flow.identity, ActorType.fire, Behaviour.fire]
      rw [calls, firings]

/-- Types whose actors select alike are not told apart by runs. -/
theorem Flow.run_congr (streams : type.Streams course fails) {other : ActorType W σ}
    (alike : other.SelectsAs type) (flow : relay.Flow course fails start actor)
    (steps : List Step) : relay.run other steps = relay.run type steps := by
  induction steps generalizing relay with
  | nil => rw [run_nil, run_nil]
  | cons step rest ih =>
      rw [run_cons, run_cons, flow.perform_congr streams alike step]
      exact ih (flow.perform streams step)

end Relay

end Dataflow
