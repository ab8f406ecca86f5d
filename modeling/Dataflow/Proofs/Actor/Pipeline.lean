import Dataflow.Actors.Arithmetic
import Dataflow.Proofs.Firing.Commutation
import Dataflow.Proofs.Firing.SingleAction
import Dataflow.Proofs.Port.Passage

/-!
# Two stages in a row

Two doublers at one store, the second of which reads what the first one writes, with queues of any
capacity between them.  Deliveries, calls, transmissions and drains come in any order; a full queue
may stop each of them half-way, and the next one takes it up from there.

* `PortStore.Carries` — numbers in a queue, and what leaves them alone.
* `Actors.Doubler.Stage` — a doubler at work keeps the stream that goes through it, and a call
  succeeds (`Actors.Doubler.Stage.call`).
* `Pipeline`, `Pipeline.perform` — the two stages, and what may be done to them.
* `Pipeline.Flow` — every number is somewhere between the delivery and the drain, doubled once for
  each stage that it has passed; `Pipeline.Flow.perform` says that each step keeps it.
* `Pipeline.run_flow` — so it is after any steps.
-/

namespace Dataflow

/-! ## Numbers in queues -/

/-- Numbers as data tokens. -/
def numbers (ns : List Int) : List Token := ns.map fun n => .data (.int n)

/-- The number fits into 64 bits with a sign. -/
def FitsInt64 (n : Int) : Prop := -0x8000000000000000 ≤ n ∧ n ≤ 0x7fffffffffffffff

namespace PortStore

variable {store next : PortStore} {actor other : ActorRef} {direction way : Direction}
  {port name : String} {ns : List Int}

/-- There is a port with these numbers queued, and none of them is handed out. -/
def Carries (store : PortStore) (actor : ActorRef) (direction : Direction) (port : String)
    (ns : List Int) : Prop :=
  ∃ capacity, store.queue actor direction port = .ok { capacity, tokens := numbers ns }

theorem Carries.of_kept (h : store.Carries actor direction port ns)
    (kept : ∀ queue, store.queue actor direction port = .ok queue →
      next.queue actor direction port = .ok queue) : next.Carries actor direction port ns :=
  h.imp fun _ found => kept _ found

theorem Carries.of_ports? (h : store.Carries actor direction port ns)
    (same : next.ports? actor = store.ports? actor) : next.Carries actor direction port ns :=
  h.of_kept fun _ found => (queue_congr same direction port).trans found

theorem Carries.mapSide_of_ne {f : String → Queue → Queue}
    (h : store.Carries actor direction port ns) (apart : ¬(actor = other ∧ direction = way)) :
    (store.mapSide other way f).Carries actor direction port ns :=
  h.of_kept fun _ found => (queue_mapSide_of_ne f port apart).trans found

theorem Unpeeked.of_ports? (clean : store.Unpeeked actor)
    (same : next.ports? actor = store.ports? actor) : next.Unpeeked actor :=
  fun port queue found => clean port queue ((queue_congr same .input port).symm.trans found)

end PortStore

/-! ## One stage -/

namespace Actors.Doubler

variable {W : Type} {actor : ActorRef} {self last : Instance W Doubler} {store : PortStore}
  {total : List Int} {count : Nat}

/-- The action of a doubler. -/
def doubling : Action (Instance W Doubler) where
  name := "double"
  inputs := [.one "in"]
  outputs := [.one "out"]
  body := onModel double

/-- A number that fits is counted and doubled. -/
theorem response_number (behaviour : Behaviour (Instance W Doubler)) {n : Int}
    (fits : FitsInt64 n) :
    doubling.response behaviour self [.data (.int n)] =
      some ({ self with model := { fired := self.model.fired + 1 } },
        .ok (.one (.int (n * 2)))) := by
  have read : (Value.int n).asInt64? = some n := if_pos fits
  simp [Action.response, Token.reason?, Token.value?, Action.accepts, doubling, onModel, double,
    read]

/-- What a doubler reads is the oldest number. -/
theorem reads_carries {n : Int} {ns : List Int} (h : store.Carries actor .input "in" (n :: ns)) :
    store.reads actor [.one "in"] = [.data (.int n)] := by
  obtain ⟨capacity, found⟩ := h
  simp [PortStore.reads, PortStore.nextTokens, PortCount.one,
    PortStore.tokensOn_of_ok found, numbers]

/-- A doubler at work: the numbers on its out-port and the doubles of those on its in-port are
`total`, and with every firing one fewer of the `count` numbers is left to be doubled. -/
structure Stage (actor : ActorRef) (total : List Int) (count : Nat)
    (doubler : Instance W Doubler) (store : PortStore) : Prop where
  identity : doubler.actor = actor
  clean : store.Unpeeked actor
  stream : ∃ waiting doubled, store.Carries actor .input "in" waiting ∧
    store.Carries actor .output "out" doubled ∧ doubled ++ waiting.map (2 * ·) = total ∧
    doubler.model.fired + waiting.length = count

/-- A doubler that is enabled has a number to read, and doubles it. -/
theorem Stage.response (stage : Stage actor total count self store)
    (fits : ∀ n ∈ total, FitsInt64 n) (enabled : doubling.Enabled actor self store) :
    ∃ n waiting doubled,
      doubling.response (type.behaviour actor) self (store.reads actor [.one "in"]) =
        some ({ self with model := { fired := self.model.fired + 1 } },
          .ok (.one (.int (n * 2)))) ∧
      store.Carries actor .input "in" (n :: waiting) ∧ store.Carries actor .output "out" doubled ∧
      doubled ++ (n :: waiting).map (2 * ·) = total ∧
      self.model.fired + (n :: waiting).length = count := by
  obtain ⟨waiting, doubled, queued, written, stream, counted⟩ := stage.stream
  cases waiting with
  | nil =>
      obtain ⟨capacity, found⟩ := queued
      obtain ⟨queue, found', enough⟩ := enabled.tokens (.one "in") (List.mem_singleton_self _)
      cases found.symm.trans found'
      cases enough
  | cons n waiting =>
      have twice : FitsInt64 (2 * n) := fits _ (by simp [← stream])
      have small : FitsInt64 n := by
        simp only [FitsInt64] at twice ⊢
        omega
      refine ⟨n, waiting, doubled, ?_, queued, written, stream, counted⟩
      rw [reads_carries queued, response_number _ small]

/-- A firing doubles the oldest number. -/
theorem Stage.fires (stage : Stage actor total count self store)
    (fits : ∀ n ∈ total, FitsInt64 n) {values : List Value}
    (fires : doubling.Fires (type.behaviour actor) store self values last) :
    Stage actor total count last
      ((doubling : Action (Instance W Doubler)).effect actor values store) := by
  obtain ⟨n, waiting, doubled, response, queued, written, stream, counted⟩ :=
    stage.response fits fires.toEnabled
  obtain ⟨result, answer, produced⟩ := fires.answer
  cases response.symm.trans answer
  cases produced
  refine ⟨stage.identity, stage.clean.effect _ _, waiting, doubled ++ [n * 2], ?_, ?_, ?_, ?_⟩
  · obtain ⟨capacity, found⟩ := queued
    exact ⟨capacity, Action.queue_effect_input _ _ found⟩
  · obtain ⟨capacity, found⟩ := written
    refine ⟨capacity, (Action.queue_effect_output _ _ found).trans ?_⟩
    simp [numbers, doubling, PortCount.one, Action.assign, PortStore.valuesFor]
  · rw [← stream, List.map_cons, List.append_assoc, Int.mul_comm n 2]
    rfl
  · rw [← counted, List.length_cons]
    simp only
    omega

/-- A doubler never fails on numbers that fit, nor on their doubles. -/
theorem stage_sustains (actor : ActorRef) (count : Nat) (fits : ∀ n ∈ total, FitsInt64 n) :
    (type.behaviour actor : Behaviour (Instance W Doubler)).Sustains doubling
      (Stage actor total count) where
  only := rfl
  takes := Nat.one_pos
  clean stage := stage.clean
  known stage := by
    obtain ⟨waiting, doubled, ⟨_, queued⟩, ⟨_, written⟩, -⟩ := stage.stream
    constructor
    · rintro _ (_ | ⟨_, ⟨⟩⟩)
      exact ⟨_, queued⟩
    · rintro _ (_ | ⟨_, ⟨⟩⟩)
      exact ⟨_, written⟩
  dependable stage enabled answered answer := by
    obtain ⟨n, waiting, doubled, response, -⟩ := stage.response fits enabled
    cases response.symm.trans answer
    refine ⟨_, rfl, nofun, ?_⟩
    rintro _ ⟨⟩
    rfl
  fires stage fires := stage.fires fits fires

/-- A call of a doubler succeeds, keeps the stream, and leaves all other actors alone. -/
theorem Stage.call (stage : Stage actor total count self store)
    (fits : ∀ n ∈ total, FitsInt64 n) :
    ∃ last final report,
      (type.behaviour actor).call self store = some ⟨last, final, .ok report⟩ ∧
      Stage actor total count last final ∧
      ∀ other, other ≠ actor → final.ports? other = store.ports? other := by
  obtain ⟨produced, last, final, report, ran, -, -, kept, -⟩ :=
    (stage_sustains actor count fits).call stage
  exact ⟨last, final, report, ran, kept, fun other apart => Behaviour.fire_ports? ran apart⟩

end Actors.Doubler

/-! ## Two stages -/

/-- Two doublers at one store, with a record of what came of the work so far. -/
structure Pipeline (W V : Type) where
  first : Instance W Actors.Doubler
  second : Instance V Actors.Doubler
  store : PortStore
  /-- The numbers whose delivery to the first stage was accepted, in order. -/
  accepted : List Int := []
  /-- The tokens that were drained from the second stage, in order. -/
  drained : List Token := []
  /-- What the calls answered, in order. -/
  calls : List (Option (Except FiringError FireReport)) := []
  /-- What the transmissions answered, in order. -/
  transmissions : List (Except PortError Nat) := []

namespace Pipeline

variable {W V : Type}

/-- What may be done to a pipeline. -/
inductive Step where
  /-- A number is delivered to the first stage. -/
  | deliver (n : Int)
  | fireFirst
  /-- What the first stage has written is passed on to the second one. -/
  | transmit
  | fireSecond
  /-- What the second stage has written is taken. -/
  | drain

/-- One step. -/
def perform (pipeline : Pipeline W V) : Step → Pipeline W V
  | .deliver n =>
    match pipeline.store.deliver pipeline.first.actor "in" (.data (.int n)) with
    | (store, .ok ()) => { pipeline with store, accepted := pipeline.accepted ++ [n] }
    | (store, .error _) => { pipeline with store }
  | .fireFirst =>
    match (Actors.Doubler.type.behaviour pipeline.first.actor).call pipeline.first
      pipeline.store with
    | none => { pipeline with calls := pipeline.calls ++ [none] }
    | some ⟨first, store, result⟩ =>
      { pipeline with first, store, calls := pipeline.calls ++ [some result] }
  | .transmit =>
    let (store, answer) :=
      (pipeline.store.transmit (pipeline.first.actor, "out") (pipeline.second.actor, "in")).value
    { pipeline with store, transmissions := pipeline.transmissions ++ [answer] }
  | .fireSecond =>
    match (Actors.Doubler.type.behaviour pipeline.second.actor).call pipeline.second
      pipeline.store with
    | none => { pipeline with calls := pipeline.calls ++ [none] }
    | some ⟨second, store, result⟩ =>
      { pipeline with second, store, calls := pipeline.calls ++ [some result] }
  | .drain =>
    match pipeline.store.drain pipeline.second.actor "out" with
    | (store, .ok tokens) => { pipeline with store, drained := pipeline.drained ++ tokens }
    | (store, .error _) => { pipeline with store }

/-- Several steps, one after the other. -/
def run (steps : List Step) (pipeline : Pipeline W V) : Pipeline W V :=
  steps.foldl perform pipeline

/-- Two fresh doublers with empty queues. -/
structure Fresh (pipeline : Pipeline W V) : Prop where
  apart : pipeline.first.actor ≠ pipeline.second.actor
  model : pipeline.first.model = {} ∧ pipeline.second.model = {}
  clean : pipeline.store.Unpeeked pipeline.first.actor ∧
    pipeline.store.Unpeeked pipeline.second.actor
  firstIn : pipeline.store.Carries pipeline.first.actor .input "in" []
  firstOut : pipeline.store.Carries pipeline.first.actor .output "out" []
  secondIn : pipeline.store.Carries pipeline.second.actor .input "in" []
  secondOut : pipeline.store.Carries pipeline.second.actor .output "out" []
  unused : pipeline.accepted = [] ∧ pipeline.drained = [] ∧ pipeline.calls = [] ∧
    pipeline.transmissions = []

/-- The numbers in each place of a pipeline: those that wait for the first stage and those that it
has written, the same for the second stage, and those that were drained. -/
structure Contents where
  waiting : List Int := []
  once : List Int := []
  passed : List Int := []
  twice : List Int := []
  drained : List Int := []

/-- Where all the numbers are.  In order, the drained ones and those in the queues from the last to
the first, doubled for each stage that they have yet to pass, are the accepted ones times four. -/
structure Flow (pipeline : Pipeline W V) (contents : Contents) : Prop where
  apart : pipeline.first.actor ≠ pipeline.second.actor
  clean : pipeline.store.Unpeeked pipeline.first.actor ∧
    pipeline.store.Unpeeked pipeline.second.actor
  firstIn : pipeline.store.Carries pipeline.first.actor .input "in" contents.waiting
  firstOut : pipeline.store.Carries pipeline.first.actor .output "out" contents.once
  secondIn : pipeline.store.Carries pipeline.second.actor .input "in" contents.passed
  secondOut : pipeline.store.Carries pipeline.second.actor .output "out" contents.twice
  drained : pipeline.drained = numbers contents.drained
  conserved : contents.drained ++ contents.twice ++ contents.passed.map (2 * ·) ++
    contents.once.map (2 * ·) ++ contents.waiting.map (4 * ·) = pipeline.accepted.map (4 * ·)
  /-- Every number that is past the first stage was counted there. -/
  fired : pipeline.first.model.fired = contents.drained.length + contents.twice.length +
    contents.passed.length + contents.once.length
  /-- Every number that is past the second stage was counted there. -/
  fired' : pipeline.second.model.fired = contents.drained.length + contents.twice.length
  small : ∀ n ∈ pipeline.accepted, FitsInt64 (4 * n)
  calls : ∀ call ∈ pipeline.calls, ∃ report, call = some (.ok report)
  transmissions : ∀ answer ∈ pipeline.transmissions, ∃ count, answer = .ok count

variable {pipeline : Pipeline W V} {contents : Contents}

theorem Fresh.flow (fresh : Fresh pipeline) : Flow pipeline {} where
  apart := fresh.apart
  clean := fresh.clean
  firstIn := fresh.firstIn
  firstOut := fresh.firstOut
  secondIn := fresh.secondIn
  secondOut := fresh.secondOut
  drained := fresh.unused.2.1
  conserved := by rw [fresh.unused.1]; rfl
  fired := by rw [fresh.model.1]; rfl
  fired' := by rw [fresh.model.2]; rfl
  small := by rw [fresh.unused.1]; exact nofun
  calls := by rw [fresh.unused.2.2.1]; exact nofun
  transmissions := by rw [fresh.unused.2.2.2]; exact nofun

/-! ## Single steps -/

/-- All numbers are small, wherever they are and whatever is still to come. -/
theorem Flow.fits (flow : Flow pipeline contents) :
    ∀ m ∈ contents.drained ++ contents.twice ++ contents.passed.map (2 * ·) ++
      contents.once.map (2 * ·) ++ contents.waiting.map (4 * ·), FitsInt64 m := by
  rw [flow.conserved]
  intro m member
  obtain ⟨n, accepted, rfl⟩ := List.mem_map.1 member
  exact flow.small n accepted

theorem Flow.fits_first (flow : Flow pipeline contents) :
    ∀ m ∈ contents.once ++ contents.waiting.map (2 * ·), FitsInt64 m := by
  intro m member
  have double : FitsInt64 (2 * m) := by
    refine flow.fits _ ?_
    rcases List.mem_append.1 member with written | queued
    · exact List.mem_append_left _ (List.mem_append_right _ (List.mem_map_of_mem written))
    · obtain ⟨n, waiting, rfl⟩ := List.mem_map.1 queued
      refine List.mem_append_right _ (List.mem_map.2 ⟨n, waiting, ?_⟩)
      omega
  simp only [FitsInt64] at double ⊢
  omega

theorem Flow.fits_second (flow : Flow pipeline contents) :
    ∀ m ∈ contents.twice ++ contents.passed.map (2 * ·), FitsInt64 m := by
  intro m member
  refine flow.fits m ?_
  simp only [List.mem_append] at member ⊢
  exact Or.inl (Or.inl (member.imp_left Or.inr))

/-- A number that is accepted waits behind the others. -/
theorem Flow.deliver (flow : Flow pipeline contents) {n : Int} (small : FitsInt64 (4 * n)) :
    ∃ contents', Flow (pipeline.perform (.deliver n)) contents' := by
  rw [perform]
  cases delivery : pipeline.store.deliver pipeline.first.actor "in" (.data (.int n)) with
  | mk next answer =>
      cases answer with
      | error e =>
          obtain rfl := PortStore.deliver_refused delivery
          exact ⟨contents, flow⟩
      | ok _ =>
          obtain rfl := PortStore.deliver_accepted delivery
          refine ⟨{ contents with waiting := contents.waiting ++ [n] }, ?_⟩
          exact
            { flow with
              clean := ⟨flow.clean.1.mapSide fun _ _ => rfl, flow.clean.2.mapSide fun _ _ => rfl⟩
              firstIn := by
                obtain ⟨capacity, found⟩ := flow.firstIn
                refine ⟨capacity, (PortStore.queue_mapSide_self _ found).trans ?_⟩
                simp [Queue.extend, numbers]
              firstOut := flow.firstOut.mapSide_of_ne (by simp)
              secondIn := flow.secondIn.mapSide_of_ne (by simp [flow.apart.symm])
              secondOut := flow.secondOut.mapSide_of_ne (by simp)
              conserved := by
                rw [List.map_append, ← List.append_assoc, flow.conserved, List.map_append]
              small :=
                List.forall_mem_append.2 ⟨flow.small, List.forall_mem_singleton.2 small⟩ }

/-- What is drained comes behind what was drained before. -/
theorem Flow.drain (flow : Flow pipeline contents) :
    ∃ contents', Flow (pipeline.perform .drain) contents' := by
  rw [perform]
  cases drain : pipeline.store.drain pipeline.second.actor "out" with
  | mk next answer =>
      cases answer with
      | error e =>
          obtain rfl := PortStore.drain_failed drain
          exact ⟨contents, flow⟩
      | ok tokens =>
          obtain ⟨capacity, found⟩ := flow.secondOut
          have still (queue : Queue)
              (there : pipeline.store.queue pipeline.second.actor .output "out" = .ok queue) :
              queue.pending = 0 := by
            cases found.symm.trans there
            rfl
          obtain ⟨all, rfl⟩ := PortStore.drain_answered still drain
          rw [PortStore.tokensOn_of_ok found] at all
          refine ⟨{ contents with
            twice := [], drained := contents.drained ++ contents.twice }, ?_⟩
          exact
            { flow with
              clean := ⟨flow.clean.1.mapSide fun _ _ => rfl, flow.clean.2.mapSide fun _ _ => rfl⟩
              firstIn := flow.firstIn.mapSide_of_ne (by simp)
              firstOut := flow.firstOut.mapSide_of_ne (by simp [flow.apart])
              secondIn := flow.secondIn.mapSide_of_ne (by simp)
              secondOut := by
                refine ⟨capacity, (PortStore.queue_mapSide_self _ found).trans ?_⟩
                simp [numbers]
              drained := by
                rw [flow.drained, ← all, numbers, numbers, numbers, List.map_append]
              conserved := by rw [List.append_nil, flow.conserved]
              fired := by
                rw [flow.fired]
                simp only [List.length_append, List.length_nil]
                omega
              fired' := by
                rw [flow.fired']
                simp only [List.length_append, List.length_nil]
                omega }

/-- What is passed on waits behind the others for the second stage. -/
theorem Flow.transmit (flow : Flow pipeline contents) :
    ∃ contents', Flow (pipeline.perform .transmit) contents' := by
  obtain ⟨capacity, outFound⟩ := flow.firstOut
  obtain ⟨capacity', intoFound⟩ := flow.secondIn
  obtain ⟨count, next, ran, transmitted⟩ := PortStore.transmit_transmitted
    (pipeline.first.actor, "out") (pipeline.second.actor, "in") outFound intoFound rfl
  have enough : count ≤ contents.once.length := by
    simpa [Queue.length, numbers] using transmitted.enough
  rw [perform, ran]
  refine ⟨{ contents with
    once := contents.once.drop count
    passed := contents.passed ++ contents.once.take count }, ?_⟩
  exact
    { flow with
      clean := ⟨transmitted.unpeeked intoFound flow.clean.1,
        transmitted.unpeeked intoFound flow.clean.2⟩
      firstIn := flow.firstIn.of_kept fun _ found =>
        (transmitted.others _ _ _ _ (by simp) (by simp [flow.apart])).2 found
      firstOut := ⟨capacity, by simpa [numbers, List.map_drop] using transmitted.sent⟩
      secondIn := ⟨capacity', by
        simpa [numbers, Queue.extend, List.map_take] using transmitted.received⟩
      secondOut := flow.secondOut.of_kept fun _ found =>
        (transmitted.others _ _ _ _ (by simp [flow.apart.symm]) (by simp)).2 found
      conserved := by
        have whole : (contents.passed ++ contents.once.take count).map (2 * ·) ++
            (contents.once.drop count).map (2 * ·) =
              contents.passed.map (2 * ·) ++ contents.once.map (2 * ·) := by
          rw [← List.map_append, List.append_assoc, List.take_append_drop, List.map_append]
        rw [List.append_assoc (contents.drained ++ contents.twice), whole, ← List.append_assoc,
          flow.conserved]
      fired := by
        rw [flow.fired]
        simp only [List.length_append, List.length_take, List.length_drop]
        omega
      transmissions :=
        List.forall_mem_append.2 ⟨flow.transmissions, List.forall_mem_singleton.2 ⟨count, rfl⟩⟩ }

/-- The first stage as it is in a pipeline. -/
theorem Flow.firstStage (flow : Flow pipeline contents) :
    Actors.Doubler.Stage pipeline.first.actor (contents.once ++ contents.waiting.map (2 * ·))
      (pipeline.first.model.fired + contents.waiting.length) pipeline.first pipeline.store :=
  ⟨rfl, flow.clean.1, contents.waiting, contents.once, flow.firstIn, flow.firstOut, rfl, rfl⟩

/-- The second stage as it is in a pipeline. -/
theorem Flow.secondStage (flow : Flow pipeline contents) :
    Actors.Doubler.Stage pipeline.second.actor (contents.twice ++ contents.passed.map (2 * ·))
      (pipeline.second.model.fired + contents.passed.length) pipeline.second pipeline.store :=
  ⟨rfl, flow.clean.2, contents.passed, contents.twice, flow.secondIn, flow.secondOut, rfl, rfl⟩

/-- Doubling once more what a stage has doubled and what it has not. -/
theorem map_double (doubled waiting : List Int) :
    (doubled ++ waiting.map (2 * ·)).map (2 * ·) =
      doubled.map (2 * ·) ++ waiting.map (4 * ·) := by
  rw [List.map_append, List.map_map]
  congr 2
  funext n
  simp only [Function.comp_apply]
  omega

theorem Flow.fireFirst (flow : Flow pipeline contents) :
    ∃ contents', Flow (pipeline.perform .fireFirst) contents' := by
  obtain ⟨last, final, report, ran, ⟨identity, clean, waiting, once, queued, written, stream,
    counted⟩, others⟩ := flow.firstStage.call flow.fits_first
  rw [perform, ran]
  have second := others _ flow.apart.symm
  have lengths := congrArg List.length stream
  simp only [List.length_append, List.length_map] at lengths
  refine ⟨{ contents with waiting, once }, ?_⟩
  exact
    { flow with
      apart := by rw [identity]; exact flow.apart
      clean := ⟨by rw [identity]; exact clean, flow.clean.2.of_ports? second⟩
      firstIn := by rw [identity]; exact queued
      firstOut := by rw [identity]; exact written
      secondIn := flow.secondIn.of_ports? second
      secondOut := flow.secondOut.of_ports? second
      conserved := by
        rw [List.append_assoc (contents.drained ++ contents.twice ++ contents.passed.map (2 * ·)),
          ← map_double, stream, map_double, ← List.append_assoc, flow.conserved]
      fired := by
        have counts := flow.fired
        simp only
        omega
      calls :=
        List.forall_mem_append.2 ⟨flow.calls, List.forall_mem_singleton.2 ⟨report, rfl⟩⟩ }

theorem Flow.fireSecond (flow : Flow pipeline contents) :
    ∃ contents', Flow (pipeline.perform .fireSecond) contents' := by
  obtain ⟨last, final, report, ran, ⟨identity, clean, passed, twice, queued, written, stream,
    counted⟩, others⟩ := flow.secondStage.call flow.fits_second
  rw [perform, ran]
  have first := others _ flow.apart
  have lengths := congrArg List.length stream
  simp only [List.length_append, List.length_map] at lengths
  refine ⟨{ contents with passed, twice }, ?_⟩
  exact
    { flow with
      apart := by rw [identity]; exact flow.apart
      clean := ⟨flow.clean.1.of_ports? first, by rw [identity]; exact clean⟩
      firstIn := flow.firstIn.of_ports? first
      firstOut := flow.firstOut.of_ports? first
      secondIn := by rw [identity]; exact queued
      secondOut := by rw [identity]; exact written
      conserved := by
        rw [List.append_assoc contents.drained, stream, ← List.append_assoc, flow.conserved]
      fired := by
        have counts := flow.fired
        simp only
        omega
      fired' := by
        have counts := flow.fired'
        simp only
        omega
      calls :=
        List.forall_mem_append.2 ⟨flow.calls, List.forall_mem_singleton.2 ⟨report, rfl⟩⟩ }

/-! ## Runs -/

/-- Every step keeps the flow. -/
theorem Flow.perform (flow : Flow pipeline contents) {step : Step}
    (small : ∀ n, step = .deliver n → FitsInt64 (4 * n)) :
    ∃ contents', Flow (pipeline.perform step) contents' := by
  cases step with
  | deliver n => exact flow.deliver (small n rfl)
  | fireFirst => exact flow.fireFirst
  | transmit => exact flow.transmit
  | fireSecond => exact flow.fireSecond
  | drain => exact flow.drain

theorem Flow.run (flow : Flow pipeline contents) {steps : List Step}
    (small : ∀ n, .deliver n ∈ steps → FitsInt64 (4 * n)) :
    ∃ contents', Flow (pipeline.run steps) contents' := by
  induction steps generalizing pipeline contents with
  | nil => exact ⟨contents, flow⟩
  | cons step rest ih =>
      obtain ⟨next, kept⟩ := flow.perform fun n here => small n (here ▸ List.mem_cons_self ..)
      exact ih kept fun n member => small n (List.mem_cons_of_mem _ member)

/-- Whatever is done to two fresh doublers, in any order and as often as one likes: no number is
lost, duplicated or moved before another one, the stages count what has passed them, and no call
and no transmission fails. -/
theorem run_flow (fresh : Fresh pipeline) {steps : List Step}
    (small : ∀ n, .deliver n ∈ steps → FitsInt64 (4 * n)) :
    ∃ contents, Flow (pipeline.run steps) contents :=
  fresh.flow.run small

/-- Two doublers with little room between them. -/
def narrow : Pipeline Unit Unit where
  first := Behaviour.bareInstance ⟨"a"⟩ {}
  second := Behaviour.bareInstance ⟨"b"⟩ {}
  store :=
    ⟨KeyMap.ofList [
      ("a", { inputs := KeyMap.ofList [("in", Queue.new (.bounded 3))]
              outputs := KeyMap.ofList [("out", Queue.new (.bounded 2))] }),
      ("b", { inputs := KeyMap.ofList [("in", Queue.new (.bounded 1))]
              outputs := KeyMap.ofList [("out", Queue.new .unbounded)] })]⟩

/-- The fourth delivery finds no room, and the first call and the first transmission stop half-way.
In the end one number has got through and each of the others is in a queue of its own. -/
def jam : List Step :=
  [.deliver 1, .deliver 2, .deliver (-3), .deliver 9, .fireFirst, .transmit, .fireSecond,
    .transmit, .drain, .fireFirst, .deliver 5]

theorem narrow_flow : ∃ contents, Flow (narrow.run jam) contents ∧
    (narrow.run jam).accepted = [1, 2, -3, 5] ∧ (narrow.run jam).drained.length = 1 ∧
    (narrow.run jam).first.model.fired = 3 ∧ (narrow.run jam).second.model.fired = 1 := by
  have clean (actor : ActorRef) (known : actor = ⟨"a"⟩ ∨ actor = ⟨"b"⟩) :
      narrow.store.Unpeeked actor := by
    refine PortStore.unpeeked_of_queues fun entry listed => ?_
    rcases known with rfl | rfl
    · obtain rfl := List.mem_singleton.1 listed
      rfl
    · obtain rfl := List.mem_singleton.1 listed
      rfl
  have fresh : Fresh narrow :=
    { apart := by decide
      model := ⟨rfl, rfl⟩
      clean := ⟨clean ⟨"a"⟩ (Or.inl rfl), clean ⟨"b"⟩ (Or.inr rfl)⟩
      firstIn := ⟨_, rfl⟩
      firstOut := ⟨_, rfl⟩
      secondIn := ⟨_, rfl⟩
      secondOut := ⟨_, rfl⟩
      unused := ⟨rfl, rfl, rfl, rfl⟩ }
  have small : ∀ n, .deliver n ∈ jam → FitsInt64 (4 * n) := by
    intro n member
    simp only [jam, List.mem_cons, Step.deliver.injEq, reduceCtorEq, List.not_mem_nil, or_false,
      false_or] at member
    rcases member with rfl | rfl | rfl | rfl | rfl <;> exact ⟨by decide, by decide⟩
  obtain ⟨contents, flow⟩ := run_flow fresh small
  exact ⟨contents, flow, by decide +kernel, by decide +kernel, by decide +kernel,
    by decide +kernel⟩

end Pipeline

end Dataflow
