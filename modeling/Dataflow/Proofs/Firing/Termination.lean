import Dataflow.Proofs.Firing.Conservation

/-!
# Calls come to an end

Nothing in the engine bounds the number of firings of a call.  If every action takes tokens off its
in-ports or puts values on a bounded out-port, the ports do: a firing uses up a token that was
queued before the call or a place that was free, and no firing brings one back.

* `PortStore.budget` — the queued tokens of the in-ports and the free places of the bounded
  out-ports.
* `Action.Costs` — the action takes tokens or fills places.  A firing of such an action lowers the
  budget (`Action.Fires.budget_lt`), so that a call has no more firings than its budget
  (`Behaviour.Completed.length_le`).
* `Behaviour.fireFrom_returns`, `Behaviour.fireFrom_mono` — a limit above the budget is high enough,
  and a higher one changes nothing.
* `Behaviour.fire_terminates` — a call of such an actor returns.
-/

namespace Dataflow

open PortCount

/-! ## The budget -/

namespace PortStore

variable {actor : ActorRef} {before after : PortStore}

/-- There is an out-port of this name, and its queue is bounded. -/
def Bounded (store : PortStore) (actor : ActorRef) (port : String) : Prop :=
  ∃ queue size, store.queue actor .output port = .ok queue ∧ queue.capacity = .bounded size

/-- The tokens on the in-ports of an actor and the free places on its bounded out-ports. -/
def budget (store : PortStore) (actor : ActorRef) : Nat :=
  store.held actor .input + store.vacancies actor

theorem Advances.bounded (h : Advances actor before after) {port : String}
    (bounded : before.Bounded actor port) : after.Bounded actor port := by
  obtain ⟨queue, size, found, capacity⟩ := bounded
  obtain ⟨_, found', -⟩ := h.outputs port queue found
  exact ⟨_, size, found', capacity⟩

/-- Firings put nothing on an in-port. -/
theorem Advances.tokensOn_input (h : Advances actor before after) (port : String) :
    after.tokensOn actor .input port <:+ before.tokensOn actor .input port := by
  cases found : before.queue actor .input port with
  | error e =>
      have missing := h.absent _ _ e found
      simp only [tokensOn, missing, found, List.suffix_rfl]
  | ok queue =>
      obtain ⟨left, part, found'⟩ := h.inputs port queue found
      rwa [tokensOn_of_ok found, tokensOn_of_ok found']

end PortStore

namespace Action

variable {S : Type} {behaviour : Behaviour S} {action : Action S} {state after : S}
  {store next : PortStore} {actor : ActorRef} {values : List Value}

/-- The action takes at least one token, or fills at least one place of a bounded out-port. -/
def Costs (action : Action S) (store : PortStore) (actor : ActorRef) : Prop :=
  0 < size action.inputs ∨
    ∃ output ∈ action.outputs, 0 < output.count ∧ store.Bounded actor output.port

theorem Costs.advances (costs : action.Costs store actor) (h : store.Advances actor next) :
    action.Costs next actor :=
  costs.imp_right fun ⟨output, declared, written, bounded⟩ =>
    ⟨output, declared, written, h.bounded bounded⟩

/-- A firing frees no place of an out-port. -/
theorem vacancies_effect_le (action : Action S) (actor : ActorRef) (values : List Value)
    (store : PortStore) :
    (action.effect actor values store).vacancies actor ≤ store.vacancies actor := by
  exact (PortStore.vacancies_produce_le _ actor _).trans_eq
    (PortStore.tally_consume_output store actor action.inputs _)

/-- A firing that puts values on a bounded out-port fills places. -/
theorem Fires.vacancies_lt (fires : Fires behaviour action store state values after)
    {output : PortCount} (declared : output ∈ action.outputs) (written : 0 < output.count)
    (bounded : store.Bounded behaviour.actor output.port) :
    (action.effect behaviour.actor values store).vacancies behaviour.actor <
      store.vacancies behaviour.actor := by
  obtain ⟨queue, size, found, capacity⟩ := bounded
  have kept : (store.consume behaviour.actor action.inputs).queue behaviour.actor .output
      output.port = .ok queue := by
    rw [PortStore.queue_consume_output, found]
  have filled : 0 <
      (PortStore.valuesFor output.port (assign action.outputs values)).length := by
    rw [PortStore.length_valuesFor_assign fires.count]
    exact written.trans_le (count_le_demand declared)
  have room := fires.toEnabled.room_for fires.count found
  exact (PortStore.vacancies_produce_lt kept capacity filled room).trans_eq
    (PortStore.tally_consume_output store behaviour.actor action.inputs _)

/-- A firing uses up tokens or places, and brings back neither. -/
theorem Fires.budget_lt (fires : Fires behaviour action store state values after)
    (costs : action.Costs store behaviour.actor) :
    (action.effect behaviour.actor values store).budget behaviour.actor <
      store.budget behaviour.actor := by
  have taken := fires.conserves.consumed
  have places := action.vacancies_effect_le behaviour.actor values store
  simp only [PortStore.budget]
  rcases costs with taking | ⟨output, declared, written, bounded⟩
  · omega
  · have fewer := fires.vacancies_lt declared written bounded
    omega

end Action

/-! ## Calls -/

namespace Behaviour

variable {S : Type} {behaviour : Behaviour S} {state after : S} {store next : PortStore}

/-- Every action of the actor takes tokens or fills places of a bounded out-port. -/
def Costly (behaviour : Behaviour S) (store : PortStore) : Prop :=
  ∀ action ∈ behaviour.actions, action.Costs store behaviour.actor

theorem Costly.advances (costly : behaviour.Costly store)
    (h : store.Advances behaviour.actor next) : behaviour.Costly next :=
  fun action listed => (costly action listed).advances h

/-- A selection in which an action fires lowers the budget. -/
theorem select_budget_lt (clean : store.Unpeeked behaviour.actor)
    (costly : behaviour.Costly store) {firing : Firing}
    (h : (behaviour.select state store).value = ⟨after, next, .ok (some firing)⟩) :
    next.budget behaviour.actor < store.budget behaviour.actor := by
  have selected := select_selected clean state
  rw [h] at selected
  cases selected with
  | @fired _ _ action _ _ _ split _ fires =>
      have listed : action ∈ behaviour.actions := by simp [split]
      exact fires.budget_lt (costly action listed)

/-- Every completed firing uses up some of the budget. -/
theorem Completed.length_le {firings : List Firing} {last : S} {final : PortStore}
    (h : Completed behaviour state store firings last final)
    (clean : store.Unpeeked behaviour.actor) (costly : behaviour.Costly store) :
    firings.length + final.budget behaviour.actor ≤ store.budget behaviour.actor := by
  induction h with
  | nil => exact (Nat.zero_add _).le
  | cons selected _ ih =>
      have lower := select_budget_lt clean costly selected
      have advances := (select_conserves clean selected).toAdvances
      have others := ih (advances.unpeeked clean) (costly.advances advances)
      rw [List.length_cons]
      omega

/-- A call returns within any limit above its budget. -/
theorem fireFrom_returns {limit : Nat} (clean : store.Unpeeked behaviour.actor)
    (costly : behaviour.Costly store) (enough : store.budget behaviour.actor < limit)
    (report : FireReport) (state : S) :
    ∃ outcome, (behaviour.fireFrom limit report state store).value = some outcome := by
  induction limit generalizing report state store with
  | zero => exact absurd enough (Nat.not_lt_zero _)
  | succ limit ih =>
      cases selected : (behaviour.select state store).value with
      | mk after next selection =>
          rcases selection with e | _ | firing
          · exact ⟨_, by simp only [fireFrom, Logged.value_bind, selected]; rfl⟩
          · exact ⟨_, by simp only [fireFrom, Logged.value_bind, selected]; rfl⟩
          · have lower := select_budget_lt clean costly selected
            have advances := (select_conserves clean selected).toAdvances
            have returns := ih (advances.unpeeked clean) (costly.advances advances) (by omega)
            simpa only [fireFrom, Logged.value_bind, selected] using
              returns (report.record firing) after

/-- What a call returns does not depend on the limit. -/
theorem fireFrom_mono {limit higher : Nat} (more : limit ≤ higher) {report : FireReport}
    {outcome : Outcome S PortStore FireReport}
    (h : (behaviour.fireFrom limit report state store).value = some outcome) :
    (behaviour.fireFrom higher report state store).value = some outcome := by
  induction limit generalizing higher report state store with
  | zero => cases h
  | succ limit ih =>
      obtain ⟨higher, rfl⟩ : ∃ n, higher = n + 1 := ⟨higher - 1, by omega⟩
      cases selected : (behaviour.select state store).value with
      | mk after next selection =>
          rcases selection with e | _ | firing
          · simp only [fireFrom, Logged.value_bind, selected] at h ⊢
            exact h
          · simp only [fireFrom, Logged.value_bind, selected] at h ⊢
            exact h
          · simp only [fireFrom, Logged.value_bind, selected] at h ⊢
            exact ih (by omega) h

/-- A call of an actor whose actions all take tokens or fill places of a bounded out-port returns,
after at most as many firings as there were tokens and places.  Its firings take only tokens that
were queued before, also where an action reads and writes ports of one name. -/
theorem fire_terminates (clean : store.Unpeeked behaviour.actor)
    (costly : behaviour.Costly store) (state : S) :
    ∃ last final result,
      (∀ limit, store.budget behaviour.actor < limit →
        (behaviour.fire limit state store).value = some ⟨last, final, result⟩) ∧
      (∃ firings rest, Completed behaviour state store firings rest final ∧
        (behaviour.select rest final).value = ⟨last, final, result.map fun _ => none⟩ ∧
        (∀ report, result = .ok report → report.firings = firings) ∧
        firings.length ≤ store.budget behaviour.actor ∧
        (firings.map Firing.consumed).sum ≤ store.held behaviour.actor .input) ∧
      ∀ port, final.tokensOn behaviour.actor .input port <:+
        store.tokensOn behaviour.actor .input port := by
  obtain ⟨⟨last, final, result⟩, returns⟩ :=
    fireFrom_returns clean costly (Nat.lt_succ_self _) {} state
  obtain ⟨firings, rest, completed, settled, reported⟩ := fire_completed_ports clean returns
  have conserved := completed.conserves clean
  have count := completed.length_le clean costly
  have taken := conserved.consumed
  refine ⟨last, final, result, fun limit above => fireFrom_mono above returns,
    ⟨firings, rest, completed, settled, reported, ?_, ?_⟩, conserved.toAdvances.tokensOn_input⟩
  · omega
  · omega

/-- An actor that copies what it reads from `p` to its out-port of the same name, and writes nulls
there when nothing is left to read. -/
def echo (actor : ActorRef) : Behaviour Unit where
  actor
  actions :=
    [{ name := "copy", inputs := [⟨"p", 1⟩], outputs := [⟨"p", 1⟩]
       body := fun state values => pure (state, .ok (.produced values)) },
     { name := "fill", outputs := [⟨"p", 1⟩]
       body := fun state _ => pure (state, .ok (.produced [.null])) }]
  onException state _ _ := pure (state, .ok (.fired false))

/-- The ports of an actor that reads and writes `p`, with the given room to write. -/
def echoPorts (actor : ActorRef) (tokens : List Token) (size : Nat) : PortStore where
  actors :=
    ⟨[(actor.id,
      { inputs := ⟨[("p", { capacity := .unbounded, tokens })], List.pairwise_singleton _ _⟩
        outputs := ⟨[("p", Queue.new (.bounded size))], List.pairwise_singleton _ _⟩ })],
      List.pairwise_singleton _ _⟩

/-- The token is copied once, and two nulls fill up the out-port of three places. -/
theorem echo_terminates : ∃ last final result,
    (∀ limit, 4 < limit →
      ((echo ⟨"e"⟩).fire limit () (echoPorts ⟨"e"⟩ [.data (.int 5)] 3)).value =
        some ⟨last, final, result⟩) ∧
    final.tokensOn ⟨"e"⟩ .output "p" = [.data (.int 5), .data .null, .data .null] ∧
    final.tokensOn ⟨"e"⟩ .input "p" <:+ [.data (.int 5)] := by
  have clean : (echoPorts ⟨"e"⟩ [.data (.int 5)] 3).Unpeeked ⟨"e"⟩ := by
    refine PortStore.unpeeked_of_queues fun entry listed => ?_
    obtain rfl := List.mem_singleton.1 listed
    rfl
  have costly : (echo ⟨"e"⟩).Costly (echoPorts ⟨"e"⟩ [.data (.int 5)] 3) := by
    intro action listed
    simp only [echo, List.mem_cons, List.not_mem_nil, or_false] at listed
    rcases listed with rfl | rfl
    · exact Or.inl (by decide)
    · exact Or.inr ⟨⟨"p", 1⟩, List.mem_singleton_self _, by decide, _, 3, rfl, rfl⟩
  obtain ⟨last, final, result, returns, -, fed⟩ := fire_terminates clean costly ()
  obtain ⟨_, _, _, ran, written⟩ : ∃ last final result,
      ((echo ⟨"e"⟩).fire 5 () (echoPorts ⟨"e"⟩ [.data (.int 5)] 3)).value =
        some ⟨last, final, result⟩ ∧
      final.tokensOn ⟨"e"⟩ .output "p" = [.data (.int 5), .data .null, .data .null] :=
    ⟨_, _, _, rfl, rfl⟩
  cases (returns 5 (by decide)).symm.trans ran
  exact ⟨last, final, result, returns, written, fed "p"⟩

end Behaviour

end Dataflow
