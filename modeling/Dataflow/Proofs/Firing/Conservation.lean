import Dataflow.Proofs.Firing.Atomicity
import Dataflow.Proofs.Port.Tally

/-!
# Tokens are conserved

What a whole call does to the ports, told without the actions that fired: tokens leave the actor's
in-ports at the front, data tokens are appended to its out-ports, and nothing else happens to the
store.  The numbers in the report are those of the tokens that left and of those that were added.

* `PortStore.Advances` — what firings may do to the queues of a store.
* `PortStore.Conserves` — the same with the numbers of tokens consumed and produced.  One firing
  conserves tokens (`Action.Fires.conserves`), and so do the completed firings of a call
  (`Behaviour.Completed.conserves`).
* `Behaviour.fire_conserves_tokens` — so does a call, whatever it ends in.
-/

namespace Dataflow

open PortCount

/-! ## Queues before and after -/

namespace PortStore

/-- Firings of an actor lead from the one store to the other: its in-ports lost tokens at the
front, its out-ports gained data tokens within their capacities, and all else is as it was, the
cursors and the capacities included. -/
structure Advances (actor : ActorRef) (before after : PortStore) : Prop where
  others : ∀ other direction port, other ≠ actor →
    after.queue other direction port = before.queue other direction port
  absent : ∀ direction port e, before.queue actor direction port = .error e →
    after.queue actor direction port = .error e
  inputs : ∀ port queue, before.queue actor .input port = .ok queue →
    ∃ left, left <:+ queue.tokens ∧
      after.queue actor .input port = .ok { queue with tokens := left }
  outputs : ∀ port queue, before.queue actor .output port = .ok queue →
    ∃ values : List Value,
      after.queue actor .output port =
        .ok { queue with tokens := queue.tokens ++ values.map Token.data } ∧
      ∀ size, queue.capacity = .bounded size →
        queue.length + values.length ≤ max size queue.length

/-- Firings lead from the one store to the other and consume and produce so many tokens. -/
structure Conserves (actor : ActorRef) (consumed produced : Nat) (before after : PortStore) : Prop
    extends Advances actor before after where
  consumed : consumed + after.held actor .input = before.held actor .input
  produced : after.held actor .output = before.held actor .output + produced

variable {actor : ActorRef} {first second third : PortStore}

theorem Advances.refl (actor : ActorRef) (store : PortStore) : Advances actor store store where
  others _ _ _ _ := rfl
  absent _ _ _ missing := missing
  inputs _ queue found := ⟨queue.tokens, List.suffix_rfl, found⟩
  outputs _ queue found := by
    refine ⟨[], by simpa using found, fun size _ => ?_⟩
    rw [List.length_nil, Nat.add_zero]
    exact Nat.le_max_right ..

theorem Advances.trans (h : Advances actor first second) (h' : Advances actor second third) :
    Advances actor first third where
  others other direction port apart :=
    (h'.others other direction port apart).trans (h.others other direction port apart)
  absent direction port e missing := h'.absent direction port e (h.absent direction port e missing)
  inputs port queue found := by
    obtain ⟨left, part, found⟩ := h.inputs port queue found
    obtain ⟨left', part', found⟩ := h'.inputs port _ found
    exact ⟨left', part'.trans part, found⟩
  outputs port queue found := by
    obtain ⟨values, found, bound⟩ := h.outputs port queue found
    obtain ⟨more, found, bound'⟩ := h'.outputs port _ found
    refine ⟨values ++ more, ?_, fun size capacity => ?_⟩
    · rw [found, List.map_append, List.append_assoc]
    · have now := bound size capacity
      have later := bound' size capacity
      simp only [Queue.length, List.length_append, List.length_map] at now later ⊢
      omega

/-- Firings leave no peek pending. -/
theorem Advances.unpeeked (h : Advances actor first second) (clean : first.Unpeeked actor) :
    second.Unpeeked actor := by
  intro port queue found
  cases before : first.queue actor .input port with
  | error e =>
      rw [h.absent _ _ e before] at found
      cases found
  | ok old =>
      obtain ⟨left, -, after⟩ := h.inputs port old before
      rw [after] at found
      cases found
      exact clean port old before

theorem Conserves.refl (actor : ActorRef) (store : PortStore) :
    Conserves actor 0 0 store store where
  toAdvances := .refl actor store
  consumed := Nat.zero_add _
  produced := rfl

theorem Conserves.trans {consumed produced consumed' produced' : Nat}
    (h : Conserves actor consumed produced first second)
    (h' : Conserves actor consumed' produced' second third) :
    Conserves actor (consumed + consumed') (produced + produced') first third where
  toAdvances := h.toAdvances.trans h'.toAdvances
  consumed := by rw [← h.consumed, ← h'.consumed, Nat.add_assoc]
  produced := by rw [h'.produced, h.produced, Nat.add_assoc]

end PortStore

/-! ## One firing -/

namespace Action

variable {S : Type} {behaviour : Behaviour S} {action : Action S} {state after : S}
  {store : PortStore} {actor : ActorRef} {values : List Value}

/-- What an enabled action produces for a port has room on it. -/
theorem Enabled.room_for (enabled : Enabled actor action state store)
    (count : values.length = action.outputArity) {port : String} {queue : Queue}
    (found : store.queue actor .output port = .ok queue) :
    queue.slotsAvailable
      (PortStore.valuesFor port (assign action.outputs values)).length = true := by
  rw [PortStore.length_valuesFor_assign count]
  by_cases declared : port ∈ action.outputs.map PortCount.port
  · obtain ⟨output, member, rfl⟩ := List.mem_map.1 declared
    obtain ⟨queue', found', room⟩ := enabled.room output member
    rw [found] at found'
    cases found'
    exact room
  · rw [demand_eq_zero declared, Queue.slotsAvailable_iff]
    intro size _
    exact Nat.zero_le _

theorem Fires.advances (fires : Fires behaviour action store state values after) :
    store.Advances behaviour.actor (action.effect behaviour.actor values store) where
  others other direction port apart := queue_effect_of_ne action values apart direction port
  absent direction port e missing := queue_effect_error action values missing
  inputs port queue found :=
    ⟨_, List.drop_suffix _ _, queue_effect_input action values found⟩
  outputs port queue found := by
    refine ⟨_, queue_effect_output action values found, fun size bound => ?_⟩
    have room := Queue.slotsAvailable_iff.1
      (fires.toEnabled.room_for fires.count found) size bound
    omega

/-- A firing consumes and produces what the action declares. -/
theorem Fires.conserves (fires : Fires behaviour action store state values after) :
    store.Conserves behaviour.actor (size action.inputs) action.outputArity
      (action.effect behaviour.actor values store) where
  toAdvances := fires.advances
  consumed := by
    rw [effect, PortStore.held, PortStore.tally_produce_input, Nat.add_comm]
    exact PortStore.held_consume fires.tokens
  produced := by
    have known : ∀ output ∈ action.outputs, ∃ queue,
        (store.consume behaviour.actor action.inputs).queue behaviour.actor .output output.port =
          .ok queue := by
      intro output member
      obtain ⟨queue, found, -⟩ := fires.room output member
      rw [PortStore.queue_consume_output]
      exact ⟨queue, found⟩
    rw [effect, PortStore.held_produce known (PortStore.length_valuesFor_assign fires.count),
      PortStore.held, PortStore.tally_consume_output]
    rfl

end Action

/-! ## Calls -/

namespace Behaviour

variable {S : Type} {behaviour : Behaviour S} {state after : S} {store next : PortStore}

/-- The firing that a selection reports is the one that it made. -/
theorem select_conserves (clean : store.Unpeeked behaviour.actor) {firing : Firing}
    (h : (behaviour.select state store).value = ⟨after, next, .ok (some firing)⟩) :
    store.Conserves behaviour.actor firing.consumed firing.produced next := by
  have selected := select_selected clean state
  rw [h] at selected
  cases selected with
  | fired _ _ fires => exact fires.conserves

theorem Completed.conserves {firings : List Firing} {last : S} {final : PortStore}
    (h : Completed behaviour state store firings last final)
    (clean : store.Unpeeked behaviour.actor) :
    store.Conserves behaviour.actor (firings.map Firing.consumed).sum
      (firings.map Firing.produced).sum final := by
  induction h with
  | nil state store => exact .refl behaviour.actor store
  | cons selected _ ih =>
      have first := select_conserves clean selected
      have others := ih (first.toAdvances.unpeeked clean)
      rw [List.map_cons, List.sum_cons, List.map_cons, List.sum_cons]
      exact first.trans others

/-- The ports when a call returns are those that its last completed firing left. -/
theorem fire_completed_ports (clean : store.Unpeeked behaviour.actor) {limit : Nat} {last : S}
    {final : PortStore} {result : Except FiringError FireReport}
    (h : (behaviour.fire limit state store).value = some ⟨last, final, result⟩) :
    ∃ firings rest, Completed behaviour state store firings rest final ∧
      (behaviour.select rest final).value = ⟨last, final, result.map fun _ => none⟩ ∧
      ∀ report, result = .ok report → report.firings = firings := by
  obtain ⟨firings, rest, end', completed, ⟨settled, rfl⟩ | ⟨e, failed, rfl⟩⟩ := fire_completed h
  · have selected := select_selected (completed.unpeeked clean) rest
    rw [settled] at selected
    cases selected with
    | rest _ =>
        refine ⟨firings, rest, completed, settled, ?_⟩
        rintro report ⟨⟩
        rw [firings_foldl_record, List.nil_append]
  · obtain ⟨rfl, -⟩ := select_error (completed.unpeeked clean) failed
    exact ⟨firings, rest, completed, failed, by rintro _ ⟨⟩⟩

/-- Whatever a call on ports without a pending peek ends in, it has only taken tokens off the front
of the actor's in-ports and appended data tokens to its out-ports, and it leaves no peek pending.
If it succeeds, its report accounts for all tokens that left and all that were added. -/
theorem fire_conserves_tokens (clean : store.Unpeeked behaviour.actor) {limit : Nat} {last : S}
    {final : PortStore} {result : Except FiringError FireReport}
    (h : (behaviour.fire limit state store).value = some ⟨last, final, result⟩) :
    store.Advances behaviour.actor final ∧ final.Unpeeked behaviour.actor ∧
      ∀ report, result = .ok report →
        (report.firings.map Firing.consumed).sum + final.held behaviour.actor .input =
          store.held behaviour.actor .input ∧
        final.held behaviour.actor .output =
          store.held behaviour.actor .output + (report.firings.map Firing.produced).sum := by
  obtain ⟨firings, rest, completed, -, reported⟩ := fire_completed_ports clean h
  have conserved := completed.conserves clean
  refine ⟨conserved.toAdvances, conserved.toAdvances.unpeeked clean, fun report succeeded => ?_⟩
  rw [reported report succeeded]
  exact ⟨conserved.consumed, conserved.produced⟩

/-- Two tokens leave the in-port, one by one, and two get to the out-port. -/
theorem doubler_conserves_tokens : ∃ last final report,
    ((Actors.Doubler.type.behaviour ⟨"d"⟩).fire 3 (bareInstance ⟨"d"⟩ {})
      (relayPorts ⟨"d"⟩ [.data (.int 5), .data (.int 7)])).value =
        some ⟨last, final, .ok report⟩ ∧
    report.firings.map Firing.consumed = [1, 1] ∧
    (relayPorts ⟨"d"⟩ [.data (.int 5), .data (.int 7)]).Advances ⟨"d"⟩ final ∧
    final.Unpeeked ⟨"d"⟩ ∧ final.held ⟨"d"⟩ .input = 0 ∧ final.held ⟨"d"⟩ .output = 2 := by
  obtain ⟨last, final, report, ran, consumed, produced⟩ : ∃ last final report,
      ((Actors.Doubler.type.behaviour ⟨"d"⟩).fire 3 (bareInstance ⟨"d"⟩ {})
        (relayPorts ⟨"d"⟩ [.data (.int 5), .data (.int 7)])).value =
          some ⟨last, final, .ok report⟩ ∧
      report.firings.map Firing.consumed = [1, 1] ∧
      report.firings.map Firing.produced = [1, 1] := ⟨_, _, _, rfl, rfl, rfl⟩
  obtain ⟨advances, clean, accounts⟩ := fire_conserves_tokens (unpeeked_relayPorts _ _) ran
  obtain ⟨lost, gained⟩ := accounts report rfl
  rw [consumed] at lost
  rw [produced] at gained
  have left : 2 + final.held ⟨"d"⟩ .input = 2 := lost
  exact ⟨last, final, report, ran, consumed, advances, clean, by omega, gained⟩

end Behaviour

end Dataflow
