import Dataflow.Actor.Lifecycle
import Dataflow.Actors.Arithmetic
import Dataflow.Proofs.Firing.Access
import Dataflow.Proofs.Firing.Selection
import Dataflow.Proofs.Port.Run

/-!
# Actors at one store

A scheduler may fire the actors of a store in any order: actors whose capabilities have nothing in
common meet at the store only, and there each of them reaches its own ports and no others.  This
asks nothing of the actors, of the ports or of how the calls end.

* `PortStore.keeps_ports?`, `Behaviour.fire_ports?` — a call leaves the ports of every other actor
  as they were.
* `Behaviour.fire_congr` — a call answers the same on all stores in which the actor has the same
  ports.
* `Neighbours` — two actors and the store that they share; `Neighbours.fire_join` — what the two
  calls come to, in either order.
* `Neighbours.fire_comm` — the order of the two calls does not matter.
-/

namespace Dataflow

/-! ## The ports of other actors -/

namespace PortStore

variable {actor other : ActorRef}

theorem ports?_mapSide_of_ne (store : PortStore) (h : other ≠ actor) (direction : Direction)
    (f : String → Queue → Queue) :
    (store.mapSide actor direction f).ports? other = store.ports? other := by
  rw [mapSide]
  split
  · rfl
  · exact ports?_setPorts_of_ne _ h _

theorem ports?_onQueue_of_ne {α : Type} (store : PortStore) (h : other ≠ actor)
    (direction : Direction) (port : String) (work : Queue → Queue × Except PortError α) :
    (store.onQueue actor direction port work).1.ports? other = store.ports? other := by
  rw [fst_onQueue]
  exact ports?_mapSide_of_ne _ h _ _

/-- The operations for an actor keep the ports that another one has. -/
theorem keeps_ports? (h : other ≠ actor) (ports : Option PortSet) :
    PortAccess.Keeps actor fun store : PortStore => store.ports? other = ports where
  tokensAvailable same _ _ := same
  slotsAvailable same _ _ := same
  peek same port _ := (ports?_onQueue_of_ne _ h .input port _).trans same
  commit {store} same names := by
    rcases fst_commit store actor names with kept | committed
    · exact (congrArg (ports? · other) kept).trans same
    · exact (congrArg (ports? · other) committed).trans
        ((ports?_mapSide_of_ne _ h _ _).trans same)
  cancel {store} same names :=
    (congrArg (ports? · other) (fst_cancel store actor names)).trans
      ((ports?_mapSide_of_ne _ h _ _).trans same)
  write same port _ := (ports?_onQueue_of_ne _ h .output port _).trans same

end PortStore

namespace Behaviour

variable {S : Type} {behaviour : Behaviour S} {store : PortStore} {state : S} {limit : Nat}

/-- A call leaves the ports of every other actor as they were, also when it fails. -/
theorem fire_ports? {outcome : Outcome S PortStore FireReport}
    (ran : (behaviour.fire limit state store).value = some outcome) {other : ActorRef}
    (h : other ≠ behaviour.actor) : outcome.ports.ports? other = store.ports? other :=
  fire_safe (PortStore.keeps_ports? h (store.ports? other)) rfl ran

/-- A call comes to the same on stores in which the actor has the same ports. -/
theorem fire_congr {first second : PortStore}
    (h : first.SamePorts behaviour.actor second) :
    CallsAlike Eq (PortStore.SamePorts behaviour.actor)
      (behaviour.fire limit state first).value (behaviour.fire limit state second).value :=
  fire_alike (PortStore.alike_ports? _) behaviour.respects_eq limit rfl h

end Behaviour

/-! ## Two actors -/

/-- Two actors and the store that they share.  Each has fields of its own and a world of its own,
in which its capabilities are, so that there is nothing else that both of them reach. -/
structure Neighbours (W V σ τ : Type) where
  left : Instance W σ
  right : Instance V τ
  store : PortStore

namespace Neighbours

variable {W V σ τ : Type}

/-- Fires the actor on the left. -/
def fireLeft (type : ActorType W σ) (limit : Nat) (pair : Neighbours W V σ τ) :
    Option (Neighbours W V σ τ × Except FiringError FireReport) :=
  (type.fire limit pair.left pair.store).value.map fun outcome =>
    ({ pair with left := outcome.state, store := outcome.ports }, outcome.result)

/-- Fires the actor on the right. -/
def fireRight (type : ActorType V τ) (limit : Nat) (pair : Neighbours W V σ τ) :
    Option (Neighbours W V σ τ × Except FiringError FireReport) :=
  (type.fire limit pair.right pair.store).value.map fun outcome =>
    ({ pair with right := outcome.state, store := outcome.ports }, outcome.result)

/-- Fires the left one and then the right one.  The results stand in the order of the actors. -/
def leftThenRight (type : ActorType W σ) (type' : ActorType V τ) (limit limit' : Nat)
    (pair : Neighbours W V σ τ) :
    Option (Neighbours W V σ τ × Except FiringError FireReport × Except FiringError FireReport) :=
  (pair.fireLeft type limit).bind fun (next, result) =>
    (next.fireRight type' limit').map fun (last, result') => (last, result, result')

/-- Fires the right one and then the left one.  The results stand in the order of the actors. -/
def rightThenLeft (type : ActorType W σ) (type' : ActorType V τ) (limit limit' : Nat)
    (pair : Neighbours W V σ τ) :
    Option (Neighbours W V σ τ × Except FiringError FireReport × Except FiringError FireReport) :=
  (pair.fireRight type' limit').bind fun (next, result') =>
    (next.fireLeft type limit).map fun (last, result) => (last, result, result')

variable {type : ActorType W σ} {type' : ActorType V τ} {limit limit' : Nat}
  {pair : Neighbours W V σ τ}

section

variable {left : Instance W σ} {right : Instance V τ} {store : PortStore}
  {outcome : Outcome (Instance W σ) PortStore FireReport}
  {outcome' : Outcome (Instance V τ) PortStore FireReport}

/-- A call of one actor comes to the same whether another one was fired before it or not. -/
theorem fire_alike_after (type : ActorType W σ) (limit : Nat) (apart : left.actor ≠ right.actor)
    (ran' : (type'.fire limit' right store).value = some outcome') :
    Behaviour.CallsAlike Eq (PortStore.SamePorts left.actor)
      (type.fire limit left outcome'.ports).value (type.fire limit left store).value := by
  have kept : outcome'.ports.SamePorts (type.behaviour left.actor).actor store :=
    Behaviour.fire_ports? ran' apart
  exact Behaviour.fire_congr kept

theorem fire_none_after (apart : left.actor ≠ right.actor)
    (endless : (type.fire limit left store).value = none)
    (ran' : (type'.fire limit' right store).value = some outcome') :
    (type.fire limit left outcome'.ports).value = none := by
  have alike := fire_alike_after type limit apart ran'
  rw [endless] at alike
  generalize (type.fire limit left outcome'.ports).value = call at alike ⊢
  cases alike
  rfl

theorem fire_some_after (apart : left.actor ≠ right.actor)
    (ran : (type.fire limit left store).value = some outcome)
    (ran' : (type'.fire limit' right store).value = some outcome') :
    ∃ final, (type.fire limit left outcome'.ports).value =
        some ⟨outcome.state, final, outcome.result⟩ ∧
      final.ports? left.actor = outcome.ports.ports? left.actor ∧
      ∀ other, other ≠ left.actor → final.ports? other = outcome'.ports.ports? other := by
  have alike := fire_alike_after type limit apart ran'
  rw [ran] at alike
  cases again : (type.fire limit left outcome'.ports).value with
  | none =>
      rw [again] at alike
      cases alike
  | some later =>
      rw [again] at alike
      cases alike with
      | finished same =>
          obtain ⟨state, final, result⟩ := later
          cases same.state
          cases same.result
          exact ⟨final, rfl, same.ports, fun other h => Behaviour.fire_ports? again h⟩

end

/-- Two calls that come to an end do so in either order, with one store after both. -/
theorem fire_join (apart : pair.left.actor ≠ pair.right.actor)
    {outcome : Outcome (Instance W σ) PortStore FireReport}
    {outcome' : Outcome (Instance V τ) PortStore FireReport}
    (ran : (type.fire limit pair.left pair.store).value = some outcome)
    (ran' : (type'.fire limit' pair.right pair.store).value = some outcome') :
    ∃ final, (type'.fire limit' pair.right outcome.ports).value =
        some ⟨outcome'.state, final, outcome'.result⟩ ∧
      (type.fire limit pair.left outcome'.ports).value =
        some ⟨outcome.state, final, outcome.result⟩ := by
  obtain ⟨final, again, own, others⟩ := fire_some_after apart ran ran'
  obtain ⟨final', again', own', others'⟩ := fire_some_after apart.symm ran' ran
  have joined : final = final' := by
    refine PortStore.ext_ports? fun actor => ?_
    by_cases left : actor = pair.left.actor
    · subst left
      rw [own, others' _ apart]
    · by_cases right : actor = pair.right.actor
      · subst right
        rw [own', others _ apart.symm]
      · rw [others _ left, others' _ right, Behaviour.fire_ports? ran left,
          Behaviour.fire_ports? ran' right]
  exact ⟨final, joined ▸ again', again⟩

/-- Two actors may be fired in either order: both orders come to an end if each call alone does,
and they give the same results, the same actors and the same store.  A call leaves the ports of
all other actors as they were, whether it succeeds or fails. -/
theorem fire_comm (apart : pair.left.actor ≠ pair.right.actor) :
    pair.leftThenRight type type' limit limit' = pair.rightThenLeft type type' limit limit' ∧
      (pair.leftThenRight type type' limit limit').isSome =
        ((pair.fireLeft type limit).isSome && (pair.fireRight type' limit').isSome) ∧
      (∀ next result, pair.fireLeft type limit = some (next, result) →
        ∀ other, other ≠ pair.left.actor →
          next.store.ports? other = pair.store.ports? other) ∧
      ∀ next result, pair.fireRight type' limit' = some (next, result) →
        ∀ other, other ≠ pair.right.actor →
          next.store.ports? other = pair.store.ports? other := by
  have orders : pair.leftThenRight type type' limit limit' =
        pair.rightThenLeft type type' limit limit' ∧
      (pair.leftThenRight type type' limit limit').isSome =
        ((pair.fireLeft type limit).isSome && (pair.fireRight type' limit').isSome) := by
    cases ran : (type.fire limit pair.left pair.store).value with
    | none =>
        cases ran' : (type'.fire limit' pair.right pair.store).value with
        | none => simp [leftThenRight, rightThenLeft, fireLeft, fireRight, ran, ran']
        | some outcome' =>
            have again := fire_none_after apart ran ran'
            simp [leftThenRight, rightThenLeft, fireLeft, fireRight, ran, ran', again]
    | some outcome =>
        cases ran' : (type'.fire limit' pair.right pair.store).value with
        | none =>
            have again' := fire_none_after apart.symm ran' ran
            simp [leftThenRight, rightThenLeft, fireLeft, fireRight, ran, ran', again']
        | some outcome' =>
            obtain ⟨final, again', again⟩ := fire_join apart ran ran'
            simp [leftThenRight, rightThenLeft, fireLeft, fireRight, ran, ran', again, again']
  refine ⟨orders.1, orders.2, ?_, ?_⟩
  · intro next result fired other h
    obtain ⟨outcome, ran, same⟩ := Option.map_eq_some_iff.1 fired
    cases same
    exact Behaviour.fire_ports? ran h
  · intro next result fired other h
    obtain ⟨outcome, ran, same⟩ := Option.map_eq_some_iff.1 fired
    cases same
    exact Behaviour.fire_ports? ran h

/-- The ports of an actor that reads `in`, which holds the given tokens, and writes `out`. -/
def relaySet (tokens : List Token) : PortSet where
  inputs := KeyMap.ofList [("in", { capacity := .unbounded, tokens })]
  outputs := KeyMap.ofList [("out", Queue.new .unbounded)]

/-- Two doublers at one store; the one on the right is about to fail at its second token. -/
def doublers : Neighbours Unit Unit Actors.Doubler Actors.Doubler where
  left := Behaviour.bareInstance ⟨"a"⟩ {}
  right := Behaviour.bareInstance ⟨"b"⟩ {}
  store :=
    ⟨KeyMap.ofList [("a", relaySet [.data (.int 5), .data (.int 7)]),
      ("b", relaySet [.data (.int 9), .data .null])]⟩

/-- In both orders the left one reports its two firings and the right one its failure. -/
theorem doublers_comm : ∃ last report e,
    doublers.leftThenRight Actors.Doubler.type Actors.Doubler.type 3 3 =
      some (last, .ok report, .error e) ∧
    doublers.rightThenLeft Actors.Doubler.type Actors.Doubler.type 3 3 =
      some (last, .ok report, .error e) ∧
    report.actions = ["double", "double"] := by
  obtain ⟨last, report, e, first, actions⟩ : ∃ last report e,
      doublers.leftThenRight Actors.Doubler.type Actors.Doubler.type 3 3 =
        some (last, .ok report, .error e) ∧
      report.actions = ["double", "double"] := ⟨_, _, _, rfl, rfl⟩
  have apart : doublers.left.actor ≠ doublers.right.actor := by decide
  exact ⟨last, report, e, first, (fire_comm apart).1.symm.trans first, actions⟩

end Neighbours

end Dataflow
