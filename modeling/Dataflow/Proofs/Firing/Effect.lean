import Mathlib.Data.List.SplitLengths
import Dataflow.Proofs.Firing.Selection
import Dataflow.Proofs.Port.Tally

/-!
# The effect of one firing

What an action reads and what it produces are both cut along its declarations, in their order, and
a port may be declared more than once, with other ports in between and with counts of zero.  The
engine goes by cursors and by taking from what is left; here the same is said with the pieces side
by side.

* `PortStore.pieces` — the tokens of each declared input.  A port that is declared again is read on
  from where its earlier declarations stopped.
* `Action.gains` — what each out-port gets of the produced values: the slices of its declarations.
* `Action.Answers` — who answered the tokens.  Where one of them is an exception token, the body
  and the input guard have no part in the attempt.
* `Action.Moves` — the ports before and after.
* `Action.tryFire_fired_effect` — what there is to say about an attempt that fired.
-/

namespace Dataflow

open PortCount

/-! ## Declarations -/

namespace PortCount

theorem size_eq_sum (declared : List PortCount) :
    size declared = (declared.map PortCount.count).sum := by
  induction declared with
  | nil => rfl
  | cons entry rest ih => rw [size, ih, List.map_cons, List.sum_cons]

/-- What the declarations up to one of them ask of its port is part of the whole demand on it. -/
theorem demand_take_add_count_le {declared : List PortCount} {place : Nat}
    (inside : place < declared.length) :
    demand declared[place].port (declared.take place) + declared[place].count ≤
      demand declared[place].port declared := by
  have split : declared.take place ++ declared[place] :: declared.drop (place + 1) = declared := by
    rw [← List.drop_eq_getElem_cons inside, List.take_append_drop]
  have whole := congrArg (demand declared[place].port) split
  rw [demand_append, demand_cons_self] at whole
  omega

end PortCount

/-! ## What is read -/

namespace PortStore

variable {store : PortStore} {actor : ActorRef}

/-- The tokens that each declared input reads: as many as it declares, past those that earlier
declarations of its port read. -/
def pieces (store : PortStore) (actor : ActorRef) (inputs : List PortCount) : List (List Token) :=
  inputs.mapIdx fun place input =>
    ((store.tokensOn actor .input input.port).drop
      (demand input.port (inputs.take place))).take input.count

theorem nextTokens_eq_flatten (cursor : String → Nat) (inputs : List PortCount) :
    store.nextTokens actor cursor inputs =
      (inputs.mapIdx fun place input =>
        ((store.tokensOn actor .input input.port).drop
          (cursor input.port + demand input.port (inputs.take place))).take
            input.count).flatten := by
  induction inputs generalizing cursor with
  | nil => rfl
  | cons input rest ih =>
      rw [nextTokens, ih, List.mapIdx_cons, List.flatten_cons, List.take_zero, demand_nil,
        Nat.add_zero]
      simp only [List.take_succ_cons, demand, Nat.add_zero, Nat.add_assoc]

/-- What an action reads is its pieces one after the other. -/
theorem reads_eq_flatten (inputs : List PortCount) :
    store.reads actor inputs = (store.pieces actor inputs).flatten := by
  simp only [reads, nextTokens_eq_flatten, pieces, Nat.zero_add]

/-- Each piece has as many tokens as its input declares. -/
theorem length_pieces {inputs : List PortCount} (holds : store.Holds actor inputs) :
    (store.pieces actor inputs).map List.length = inputs.map PortCount.count := by
  refine List.ext_getElem (by simp [pieces]) fun place _ inside => ?_
  rw [List.length_map] at inside
  obtain ⟨queue, found, enough⟩ := holds inputs[place] (List.getElem_mem inside)
  have upTo := demand_take_add_count_le inside
  rw [Queue.length] at enough
  simp only [pieces, List.getElem_map, List.getElem_mapIdx, List.length_take, List.length_drop,
    tokensOn_of_ok found]
  omega

end PortStore

/-! ## What is produced -/

namespace Action

/-- The values cut into consecutive slices by the declared counts. -/
def slices (outputs : List PortCount) (values : List Value) : List (List Value) :=
  (outputs.map PortCount.count).splitLengths values

/-- The slices of all declarations of a port, in declaration order. -/
def gains (port : String) (outputs : List PortCount) (values : List Value) : List Value :=
  ((outputs.zip (slices outputs values)).filter fun entry => entry.1.port = port).flatMap Prod.snd

/-- The values assigned to a port are the slices of its declarations. -/
theorem valuesFor_assign (port : String) (outputs : List PortCount) (values : List Value) :
    PortStore.valuesFor port (assign outputs values) = gains port outputs values := by
  induction outputs generalizing values with
  | nil => rfl
  | cons output rest ih =>
      have here : PortStore.valuesFor port ((values.take output.count).map (output.port, ·)) =
          if output.port = port then values.take output.count else [] := by
        by_cases same : output.port = port
        · simp only [PortStore.valuesFor, List.filterMap_map, if_pos same, Function.comp_def,
            List.filterMap_some]
        · simp only [PortStore.valuesFor, List.filterMap_map, if_neg same, Function.comp_def,
            List.filterMap_none]
      have later : PortStore.valuesFor port (assign rest (values.drop output.count)) =
          gains port rest (values.drop output.count) := ih _
      rw [assign, PortStore.valuesFor, List.filterMap_append, ← PortStore.valuesFor, here,
        ← PortStore.valuesFor, later]
      by_cases same : output.port = port
      · simp [gains, slices, same]
      · simp [gains, slices, same]

end Action

/-! ## Who answers -/

/-- Tokens without an exception token among them are values. -/
theorem Token.eq_map_data {tokens : List Token}
    (plain : ∀ token ∈ tokens, Token.reason? token = none) :
    tokens = (tokens.filterMap Token.value?).map Token.data := by
  induction tokens with
  | nil => rfl
  | cons token rest ih =>
      have later := ih fun other member => plain other (List.mem_cons_of_mem _ member)
      cases token with
      | data value =>
          simp only [List.filterMap_cons, Token.value?, List.map_cons]
          rw [← later]
      | exception reason => cases plain _ (List.mem_cons_self ..)

/-- Where all that is asked for is there, the answer says so. -/
theorem Checked.eq_of_fit {store : PortStore} {actor : ActorRef} {fit : Prop}
    {outcome : PortStore × Except PortError (Option String)}
    (checked : Checked store actor fit outcome) (fits : fit) : outcome = (store, .ok none) := by
  cases checked with
  | missing _ short => exact absurd fits short
  | refused short => exact absurd fits short
  | passed _ => rfl

namespace Action

variable {S : Type} {behaviour : Behaviour S} {action : Action S} {priority : Nat} {state : S}
  {store : PortStore}

/-- Who answered the tokens of an attempt, and with what. -/
inductive Answers (behaviour : Behaviour S) (action : Action S) (priority : Nat) (state : S)
    (store : PortStore) (tokens : List Token) (answer : S × Except Failure ActionResult) : Prop
  /-- There are only values: the input guard accepted them, and the body answered. -/
  | body (values : List Value) : tokens = values.map Token.data →
      values.length = size action.inputs → action.accepts state values = true →
      (action.body state values).value = answer →
      Answers behaviour action priority state store tokens answer
  /-- The handler answered to the first exception token.  With any other body and input guard, the
  attempt would have been the same. -/
  | handler (before : List Value) (reason : String) (later : List Token) :
      tokens = before.map Token.data ++ Token.exception reason :: later →
      (behaviour.onException state action.name reason).value = answer →
      (∀ body inputGuard,
        ({ action with body, inputGuard } : Action S).tryFire behaviour priority state store =
          action.tryFire behaviour priority state store) →
      Answers behaviour action priority state store tokens answer

/-- An action that is enabled goes on to peek. -/
theorem tryFire_of_enabled (clean : store.Unpeeked behaviour.actor)
    (enabled : Enabled behaviour.actor action state store) :
    action.tryFire behaviour priority state store =
      action.proceed behaviour priority state store := by
  have tokens := (totals_checked (PortAccess.tokensAvailable · behaviour.actor) .input
    Queue.tokensAvailable (fun _ _ => rfl) action.inputs).eq_of_fit
      ((PortStore.meets_iff_holds clean _).2 enabled.tokens)
  have room := (totals_checked (PortAccess.slotsAvailable · behaviour.actor) .output
    Queue.slotsAvailable (fun _ _ => rfl) action.outputs).eq_of_fit enabled.room
  simp only [tryFire, if_pos enabled.guard, tokens, room]

/-- Once an exception token is read, neither the body nor the input guard matters. -/
theorem tryFire_of_exception (clean : store.Unpeeked behaviour.actor)
    (enabled : Enabled behaviour.actor action state store) {reason : String}
    (exception :
      (store.reads behaviour.actor action.inputs).findSome? Token.reason? = some reason)
    (body : S → List Value → Logged (S × Except Failure ActionResult))
    (inputGuard : Option (S → List Value → Bool)) :
    ({ action with body, inputGuard } : Action S).tryFire behaviour priority state store =
      action.tryFire behaviour priority state store := by
  have same : Enabled behaviour.actor ({ action with body, inputGuard } : Action S) state store :=
    ⟨enabled.guard, enabled.tokens, enabled.room⟩
  have peeks := enabled.tokens.peekAll_eq clean
  rw [tryFire_of_enabled clean enabled, tryFire_of_enabled clean same]
  simp only [proceed, peeks, invoke, exception]
  rfl

/-- What the actor answers comes from the body or from the handler. -/
theorem answers_of_response (priority : Nat) (clean : store.Unpeeked behaviour.actor)
    (enabled : Enabled behaviour.actor action state store)
    {answer : S × Except Failure ActionResult}
    (answered : action.response behaviour state (store.reads behaviour.actor action.inputs) =
      some answer) :
    Answers behaviour action priority state store (store.reads behaviour.actor action.inputs)
      answer := by
  rw [response] at answered
  split at answered
  · next reason exception =>
      obtain ⟨before, token, later, split, here, plain⟩ := List.findSome?_eq_some_iff.1 exception
      cases token with
      | data value => cases here
      | exception text =>
          obtain rfl : text = reason := Option.some.inj here
          rw [Token.eq_map_data plain] at split
          exact .handler _ _ later split (Option.some.inj answered)
            (tryFire_of_exception clean enabled exception)
  · next plain =>
      have values := Token.eq_map_data (List.findSome?_eq_none_iff.1 plain)
      have count := congrArg List.length values
      rw [PortStore.length_reads enabled.tokens, List.length_map] at count
      split at answered
      · next accepted =>
          exact .body _ values count.symm accepted (Option.some.inj answered)
      · cases answered

/-! ## The ports -/

/-- The ports before and after a firing that produced the given values.  Capacities and cursors are
parts of the queues, and stay. -/
structure Moves (actor : ActorRef) (action : Action S) (values : List Value)
    (store next : PortStore) : Prop where
  /-- All declared ports exist. -/
  inputs : ∀ input ∈ action.inputs, ∃ queue, store.queue actor .input input.port = .ok queue
  outputs : ∀ output ∈ action.outputs, ∃ queue,
    store.queue actor .output output.port = .ok queue
  /-- Each in-port had as many tokens as are declared on it, and lost just these. -/
  taken : ∀ port queue, store.queue actor .input port = .ok queue →
    demand port action.inputs ≤ queue.length ∧
      next.queue actor .input port =
        .ok { queue with tokens := queue.tokens.drop (demand port action.inputs) }
  /-- Each out-port got the slices of its declarations behind what it held. -/
  given : ∀ port queue, store.queue actor .output port = .ok queue →
    next.queue actor .output port =
      .ok { queue with tokens := queue.tokens ++ (gains port action.outputs values).map .data }
  /-- Nothing else happened to the ports of the actor, nor to any other actor. -/
  missing : ∀ direction port e, store.queue actor direction port = .error e →
    next.queue actor direction port = .error e
  others : ∀ other ≠ actor, ∀ direction port,
    next.queue other direction port = store.queue other direction port

theorem moves_effect {actor : ActorRef} (enabled : Enabled actor action state store)
    (values : List Value) : action.Moves actor values store (action.effect actor values store) where
  inputs := enabled.tokens.known
  outputs output declared := (enabled.room output declared).imp fun _ found => found.1
  taken port queue found := by
    refine ⟨?_, queue_effect_input action values found⟩
    by_cases declared : port ∈ action.inputs.map PortCount.port
    · obtain ⟨input, listed, rfl⟩ := List.mem_map.1 declared
      obtain ⟨queue', found', enough⟩ := enabled.tokens input listed
      rw [found] at found'
      cases found'
      exact enough
    · rw [demand_eq_zero declared]
      exact Nat.zero_le _
  given port queue found := by
    rw [queue_effect_output action values found, valuesFor_assign]
  missing direction port e absent := queue_effect_error action values absent
  others other different direction port := queue_effect_of_ne action values different direction port

/-! ## The attempt -/

/-- What an attempt that fires comes to.  Its tokens are those of the declared inputs, one after the
other; the body answered to their values, or the handler to the first exception token among them;
and the ports lost and gained what the declarations say. -/
theorem tryFire_fired_effect (behaviour : Behaviour S) (action : Action S) (priority : Nat)
    (state : S) (store : PortStore) (clean : store.Unpeeked behaviour.actor) {after : S}
    {next : PortStore} {firing : Firing}
    (fired : (action.tryFire behaviour priority state store).value =
      ⟨after, next, .ok (.fired firing)⟩) :
    ∃ result values,
      Answers behaviour action priority state store
        (store.pieces behaviour.actor action.inputs).flatten (after, .ok result) ∧
      result.values? = some values ∧ values.length = action.outputArity ∧
      (store.pieces behaviour.actor action.inputs).map List.length =
        action.inputs.map PortCount.count ∧
      (slices action.outputs values).flatten = values ∧
      (slices action.outputs values).map List.length = action.outputs.map PortCount.count ∧
      action.Moves behaviour.actor values store next ∧
      firing = action.firing behaviour.actor priority store := by
  rcases action.tryFire_cases clean fired with
    ⟨_, skipped, _⟩ | ⟨values, same, rfl, fires⟩ | ⟨_, failed, _⟩
  · cases skipped
  · cases same
    obtain ⟨result, answered, produced⟩ := fires.answer
    have count := fires.count
    rw [outputArity, size_eq_sum] at count
    have answers := answers_of_response priority clean fires.toEnabled answered
    rw [PortStore.reads_eq_flatten] at answers
    exact ⟨result, values, answers, produced, fires.count,
      PortStore.length_pieces fires.tokens, List.flatten_splitLengths _ _ count.le,
      List.map_splitLengths_length _ _ count.ge, moves_effect fires.toEnabled values, rfl⟩
  · cases failed

/-- Reads `x`, then `y`, then `x` again, and hands on what it reads to `a`, `b` and `a` again. -/
def zigzag : Action Unit where
  name := "zigzag"
  inputs := [⟨"x", 1⟩, ⟨"y", 1⟩, ⟨"z", 0⟩, ⟨"x", 1⟩]
  outputs := [⟨"a", 1⟩, ⟨"b", 1⟩, ⟨"a", 1⟩]
  body := fun self values => pure (self, .ok (.produced values))

/-- An actor with this one action. -/
def zigzagging : Behaviour Unit where
  actor := ⟨"m"⟩
  actions := [zigzag]
  onException := fun self _ reason => pure (self, .error ⟨reason, []⟩)

/-- The ports of that actor. -/
def zigzagPorts : PortStore where
  actors := KeyMap.ofList [("m",
    { inputs := KeyMap.ofList
        [("x", { capacity := .unbounded,
                 tokens := [.data (.int 1), .data (.int 2), .exception "late"] }),
          ("y", { capacity := .unbounded, tokens := [.data (.int 3)] }),
          ("z", { capacity := .unbounded, tokens := [.data (.int 4)] })]
      outputs := KeyMap.ofList
        [("a", Queue.new .unbounded), ("b", Queue.new (.bounded 1))] })]

/-- The second `x` reads on behind the first one, and `a` gets the first and the third value. -/
theorem zigzag_fired_effect : ∃ next firing result values,
    (zigzag.tryFire zigzagging 0 () zigzagPorts).value = ⟨(), next, .ok (.fired firing)⟩ ∧
    (zigzagPorts.pieces ⟨"m"⟩ zigzag.inputs).flatten =
      [.data (.int 1), .data (.int 3), .data (.int 2)] ∧
    next.tokensOn ⟨"m"⟩ .input "x" = [.exception "late"] ∧
    next.tokensOn ⟨"m"⟩ .output "a" = [.data (.int 1), .data (.int 2)] ∧
    Answers zigzagging zigzag 0 () zigzagPorts (zigzagPorts.pieces ⟨"m"⟩ zigzag.inputs).flatten
      ((), .ok result) ∧
    result.values? = some values ∧ zigzag.Moves ⟨"m"⟩ values zigzagPorts next := by
  have clean : zigzagPorts.Unpeeked zigzagging.actor := by
    refine PortStore.unpeeked_of_queues fun entry listed => ?_
    have queues : zigzagPorts.queues ⟨"m"⟩ .input =
        [("x", ⟨.unbounded, [.data (.int 1), .data (.int 2), .exception "late"], 0⟩),
          ("y", ⟨.unbounded, [.data (.int 3)], 0⟩), ("z", ⟨.unbounded, [.data (.int 4)], 0⟩)] := rfl
    rw [zigzagging, queues] at listed
    simp only [List.mem_cons, List.not_mem_nil, or_false] at listed
    rcases listed with rfl | rfl | rfl <;> rfl
  obtain ⟨next, firing, fired, left, gained⟩ : ∃ next firing,
      (zigzag.tryFire zigzagging 0 () zigzagPorts).value = ⟨(), next, .ok (.fired firing)⟩ ∧
      next.tokensOn ⟨"m"⟩ .input "x" = [.exception "late"] ∧
      next.tokensOn ⟨"m"⟩ .output "a" = [.data (.int 1), .data (.int 2)] := ⟨_, _, rfl, rfl, rfl⟩
  obtain ⟨result, values, answers, produced, -, -, -, -, moves, -⟩ :=
    tryFire_fired_effect zigzagging zigzag 0 () zigzagPorts clean fired
  exact ⟨next, firing, result, values, fired, rfl, left, gained, answers, produced, moves⟩

end Action

end Dataflow
