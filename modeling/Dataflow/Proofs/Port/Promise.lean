import Dataflow.Proofs.Port.Run
import Dataflow.Proofs.Port.Tally

/-!
# The promise of a store

The engine first asks a store whether an action can take its tokens and has places for what it
emits, and only later peeks and writes.  What happens in between must not matter: the engine goes
on to read and commit other in-ports and to write to other out-ports, peers deliver tokens, and
ports are added.  A confirmed place stays free until it is written to, and a confirmed token stays
the next one until it is read.

* `PortStore.Step.Between` — what may be done to a store between a check and its use.
* `PortStore.queue_perform_output`, `PortStore.queue_perform_input` — such a step, seen from one
  out-port and from one in-port.
* `PortStore.queue_after_output`, `PortStore.queue_after_input` — any number of them.
* `PortStore.queue_after_writes` — writes in a row, beyond the last free place.
* `PortStore.promise_kept` — both checks are promises, and their refusals are justified.
-/

namespace Dataflow

/-! ## Room in a queue -/

namespace Queue

variable {queue : Queue}

/-- A queue with some more tokens behind the others. -/
def extend (queue : Queue) (tokens : List Token) : Queue :=
  { queue with tokens := queue.tokens ++ tokens }

@[simp] theorem extend_nil (queue : Queue) : queue.extend [] = queue := by
  simp [extend]

@[simp] theorem extend_extend (queue : Queue) (first second : List Token) :
    (queue.extend first).extend second = queue.extend (first ++ second) := by
  simp [extend]

/-- Room for several tokens, one lot after the other. -/
theorem slotsAvailable_extend {tokens : List Token} {count : Nat}
    (room : queue.slotsAvailable (tokens.length + count) = true) :
    queue.slotsAvailable tokens.length = true ∧
      (queue.extend tokens).slotsAvailable count = true := by
  rw [slotsAvailable_iff] at room
  constructor
  · rw [slotsAvailable_iff]
    intro size bound
    have free := room size bound
    omega
  · rw [slotsAvailable_iff]
    intro size bound
    have free := room size bound
    rw [length] at free ⊢
    rw [extend, List.length_append]
    omega

theorem slotsAvailable_of_le {fewer more : Nat} (le : fewer ≤ more)
    (room : queue.slotsAvailable more = true) : queue.slotsAvailable fewer = true := by
  rw [slotsAvailable_iff] at room ⊢
  exact fun size bound => Nat.le_trans le (room size bound)

/-- Places are refused by a bounded queue only, if it has fewer free ones. -/
theorem slotsAvailable_eq_false {count : Nat} (refused : queue.slotsAvailable count = false) :
    (∃ size, queue.capacity = .bounded size) ∧ queue.vacancy < count := by
  cases bound : queue.capacity with
  | bounded size =>
      simp only [slotsAvailable, bound, decide_eq_false_iff_not, Nat.not_le] at refused
      simp only [vacancy, bound]
      exact ⟨⟨size, rfl⟩, refused⟩
  | unbounded => simp [slotsAvailable, bound] at refused

theorem slotsAvailable_one {size : Nat} (bound : queue.capacity = .bounded size) :
    queue.slotsAvailable 1 = decide (0 < queue.vacancy) := by
  simp [slotsAvailable, vacancy, bound, Nat.succ_le_iff]

theorem vacancy_extend (queue : Queue) (tokens : List Token) :
    (queue.extend tokens).vacancy = queue.vacancy - tokens.length := by
  cases bound : queue.capacity with
  | bounded size => simp [vacancy, extend, length, bound, Nat.sub_sub]
  | unbounded => simp [vacancy, extend, bound]

/-- The tokens that are next stay next when others come behind them. -/
theorem next_extend {count : Nat} (enough : queue.tokensAvailable count = true)
    (tokens : List Token) :
    ((queue.extend tokens).peek count).2 = some ((queue.tokens.drop queue.pending).take count) := by
  rw [tokensAvailable_iff, length, ← List.length_drop] at enough
  have still : (queue.extend tokens).tokensAvailable count = true := by
    rw [tokensAvailable_iff, length, extend, List.length_append]
    rw [List.length_drop] at enough
    exact Nat.le_trans enough (Nat.sub_le_sub_right (Nat.le_add_right ..) _)
  rw [peek, if_pos still]
  show some (((queue.tokens ++ tokens).drop queue.pending).take count) = _
  rw [List.drop_append, List.take_append_of_le_length enough]

end Queue

namespace PortStore

variable {store : PortStore} {actor : ActorRef} {port : String} {queue : Queue}

/-! ## Steps between a check and its use -/

/-- What may be done to a store between a check of a port and its use.  Only draining out-ports,
passing their tokens on, moving actors and firing them as a whole are left out. -/
def Step.Between : Step → Prop
  | .addPort .. | .deliver .. | .tokensAvailable .. | .slotsAvailable .. | .peek .. | .commit ..
  | .cancel .. | .write .. => True
  | .drain .. | .transmit .. | .detach .. | .attach .. | .fire .. => False

/-- The step works on the queue of a port. -/
def Step.Touches (actor : ActorRef) (direction : Direction) (port : String) : Step → Prop
  | .deliver other name _ | .peek other name _ => direction = .input ∧ other = actor ∧ name = port
  | .commit other names | .cancel other names =>
    direction = .input ∧ other = actor ∧ port ∈ names
  | .write other name _ => direction = .output ∧ other = actor ∧ name = port
  | _ => False

/-- The step neither peeks nor commits nor cancels an in-port. -/
def Step.SparesInput (actor : ActorRef) (port : String) : Step → Prop
  | .peek other name _ => ¬(other = actor ∧ name = port)
  | .commit other names | .cancel other names => ¬(other = actor ∧ port ∈ names)
  | _ => True

/-- The tokens that a step writes to an out-port, if there is room. -/
def Step.written (actor : ActorRef) (port : String) : Step → List Token
  | .write other name token => if other = actor ∧ name = port then [token] else []
  | _ => []

/-- The tokens that several steps write to an out-port, if there is room. -/
def written (actor : ActorRef) (port : String) (steps : List Step) : List Token :=
  steps.flatMap (Step.written actor port)

@[simp] theorem written_nil (actor : ActorRef) (port : String) : written actor port [] = [] := rfl

@[simp] theorem written_cons (actor : ActorRef) (port : String) (step : Step)
    (steps : List Step) :
    written actor port (step :: steps) = step.written actor port ++ written actor port steps :=
  rfl

@[simp] theorem written_append (actor : ActorRef) (port : String) (first second : List Step) :
    written actor port (first ++ second) = written actor port first ++ written actor port second :=
  List.flatMap_append

/-! ## Writes -/

/-- A write to a port with room succeeds. -/
theorem write_of_room (found : store.queue actor .output port = .ok queue)
    (room : queue.slotsAvailable 1 = true) (token : Token) :
    (store.write actor port token).2 = .ok () ∧
      (store.write actor port token).1.queue actor .output port = .ok (queue.extend [token]) := by
  rw [write, onQueue_of_ok found, append, Queue.write?, if_pos room]
  exact ⟨rfl, queue_mapSide_self _ found |>.trans (by rw [onlyAt, if_pos rfl]; rfl)⟩

/-- A write to a full port fails and changes nothing. -/
theorem write_of_full (found : store.queue actor .output port = .ok queue)
    (full : queue.slotsAvailable 1 = false) (token : Token) :
    store.write actor port token = (store, .error (.queueFull actor port)) := by
  rw [write, onQueue_of_ok found, append, Queue.write?, if_neg (by simp [full])]
  exact congrArg (·, _) (mapSide_onlyAt_self found)

/-! ## One step -/

/-- A step in between leaves every queue alone that it does not work on. -/
theorem queue_perform_of_not_touches {direction : Direction} {step : Step}
    (between : step.Between) (untouched : ¬step.Touches actor direction port)
    (found : store.queue actor direction port = .ok queue) :
    (store.perform step).queue actor direction port = .ok queue := by
  cases step with
  | drain | transmit | detach | attach | fire => exact between.elim
  | tokensAvailable | slotsAvailable => exact found
  | addPort => exact queue_addPort found
  | deliver | peek | write =>
      refine queue_onQueue_of_ne (fun here => untouched ?_) found
      exact ⟨here.2.1, here.1.symm, here.2.2.symm⟩
  | commit other names =>
      rw [perform]
      rcases store.fst_commit other names with same | same
      · rw [same, found]
      · rw [same, committed, queue_mapSide, found]
        split
        · rename_i here
          rw [Except.map, if_neg fun named => untouched ⟨here.2, here.1.symm, named⟩]
        · rfl
  | cancel other names =>
      rw [perform, fst_cancel, cancelled, queue_mapSide, found]
      split
      · rename_i here
        rw [Except.map, if_neg fun named => untouched ⟨here.2, here.1.symm, named⟩]
      · rfl

/-- A step in between adds to an out-port what it writes to it, and nothing else. -/
theorem queue_perform_output {step : Step} (between : step.Between)
    (found : store.queue actor .output port = .ok queue)
    (room : queue.slotsAvailable (step.written actor port).length = true) :
    (store.perform step).queue actor .output port =
      .ok (queue.extend (step.written actor port)) := by
  by_cases touched : step.Touches actor .output port
  · cases step with
    | write other name token =>
        obtain ⟨-, rfl, rfl⟩ := touched
        simp only [Step.written, and_self, if_true] at room ⊢
        exact (write_of_room found room token).2
    | _ => simp [Step.Touches] at touched
  · have nothing : step.written actor port = [] := by
      cases step with
      | write => exact if_neg fun here => touched ⟨rfl, here⟩
      | _ => rfl
    rw [nothing, Queue.extend_nil]
    exact queue_perform_of_not_touches between touched found

/-- A step in between that does not read an in-port can only put tokens behind the others. -/
theorem queue_perform_input {step : Step} (between : step.Between)
    (spares : step.SparesInput actor port)
    (found : store.queue actor .input port = .ok queue) :
    ∃ tokens, (store.perform step).queue actor .input port = .ok (queue.extend tokens) := by
  by_cases touched : step.Touches actor .input port
  · cases step with
    | deliver other name token =>
        obtain ⟨-, rfl, rfl⟩ := touched
        rw [perform, deliver, onQueue_of_ok found, queue_mapSide_self _ found, onlyAt, if_pos rfl,
          fst_append]
        by_cases room : queue.slotsAvailable 1 = true
        · exact ⟨[token], by rw [if_pos room]; rfl⟩
        · exact ⟨[], by rw [if_neg room, Queue.extend_nil]⟩
    | peek | commit | cancel => exact absurd touched.2 spares
    | _ => simp [Step.Touches] at touched
  · exact ⟨[], by simpa using queue_perform_of_not_touches between touched found⟩

/-! ## Several steps -/

theorem queue_after_output {steps : List Step} (between : ∀ step ∈ steps, step.Between)
    (found : store.queue actor .output port = .ok queue)
    (room : queue.slotsAvailable (written actor port steps).length = true) :
    (store.after steps).queue actor .output port =
      .ok (queue.extend (written actor port steps)) := by
  induction steps generalizing store queue with
  | nil => simpa using found
  | cons step rest ih =>
      -- What the steps keep is room for everything that is still to be written.
      rw [written_cons, List.length_append] at room
      obtain ⟨here, later⟩ := Queue.slotsAvailable_extend room
      have next := queue_perform_output (between step (List.mem_cons_self ..)) found here
      rw [after_cons, written_cons, ← Queue.extend_extend]
      exact ih (fun other member => between other (List.mem_cons_of_mem _ member)) next later

theorem queue_after_input {steps : List Step} (between : ∀ step ∈ steps, step.Between)
    (spares : ∀ step ∈ steps, step.SparesInput actor port)
    (found : store.queue actor .input port = .ok queue) :
    ∃ tokens, (store.after steps).queue actor .input port = .ok (queue.extend tokens) := by
  induction steps generalizing store queue with
  | nil => exact ⟨[], by simpa using found⟩
  | cons step rest ih =>
      obtain ⟨first, next⟩ := queue_perform_input (between step (List.mem_cons_self ..))
        (spares step (List.mem_cons_self ..)) found
      obtain ⟨second, last⟩ := ih
        (fun other member => between other (List.mem_cons_of_mem _ member))
        (fun other member => spares other (List.mem_cons_of_mem _ member)) next
      exact ⟨first ++ second, by rw [after_cons, last, Queue.extend_extend]⟩

/-- Writes in a row fill the free places, in order; the rest of the tokens is refused. -/
theorem queue_after_writes {size : Nat} (bound : queue.capacity = .bounded size)
    (found : store.queue actor .output port = .ok queue) (tokens : List Token) :
    (store.after (tokens.map (.write actor port))).queue actor .output port =
      .ok (queue.extend (tokens.take queue.vacancy)) := by
  induction tokens generalizing store queue with
  | nil => simpa using found
  | cons token rest ih =>
      rw [List.map_cons, after_cons, perform]
      by_cases free : 0 < queue.vacancy
      · have room : queue.slotsAvailable 1 = true := by simp [Queue.slotsAvailable_one bound, free]
        have next := (write_of_room found room token).2
        have still : (queue.extend [token]).capacity = .bounded size := bound
        rw [ih still next, Queue.extend_extend, Queue.vacancy_extend, List.length_singleton,
          List.take_cons free, List.singleton_append]
      · have full : queue.slotsAvailable 1 = false := by simp [Queue.slotsAvailable_one bound, free]
        rw [write_of_full found full, ih bound found, Nat.eq_zero_of_not_pos free, List.take_zero,
          List.take_zero]

/-! ## The promise -/

/-- What the answers of a store about an actor's ports of one name are worth. -/
structure Promise (store : PortStore) (actor : ActorRef) (port : String) (count : Nat) :
    Prop where
  /-- Confirmed places are there for the next writes, whatever else is done meanwhile. -/
  places : store.slotsAvailable actor port count = .ok true →
    ∃ queue, store.queue actor .output port = .ok queue ∧
      ∀ steps, (∀ step ∈ steps, step.Between) → (written actor port steps).length ≤ count →
        (∀ before token rest, steps = before ++ .write actor port token :: rest →
          ((store.after before).write actor port token).2 = .ok ()) ∧
        (store.after steps).queue actor .output port =
          .ok { queue with tokens := queue.tokens ++ written actor port steps }
  /-- Where they are refused, there are fewer: a write succeeds just if some are left. -/
  noPlaces : store.slotsAvailable actor port count = .ok false →
    ∃ queue, store.queue actor .output port = .ok queue ∧ queue.vacancy < count ∧
      ∀ tokens : List Token,
        (∀ before token rest, tokens = before ++ token :: rest →
          let here := store.after (before.map (.write actor port))
          (before.length < queue.vacancy → (here.write actor port token).2 = .ok ()) ∧
            (queue.vacancy ≤ before.length →
              here.write actor port token = (here, .error (.queueFull actor port)))) ∧
        (store.after (tokens.map (.write actor port))).queue actor .output port =
          .ok { queue with tokens := queue.tokens ++ tokens.take queue.vacancy }
  /-- Confirmed tokens are handed out by the next peek, whatever else is done meanwhile. -/
  tokens : store.tokensAvailable actor port count = .ok true →
    ∃ queue, store.queue actor .input port = .ok queue ∧
      ((queue.tokens.drop queue.pending).take count).length = count ∧
      ∀ steps, (∀ step ∈ steps, step.Between) → (∀ step ∈ steps, step.SparesInput actor port) →
        ((store.after steps).peek actor port count).2 =
          .ok ((queue.tokens.drop queue.pending).take count)
  /-- Where they are refused, a peek fails and does not move the cursor. -/
  noTokens : store.tokensAvailable actor port count = .ok false →
    ∃ queue, store.queue actor .input port = .ok queue ∧ queue.available < count ∧
      store.peek actor port count =
        (store, .error (.insufficientTokens actor port count queue.available))

theorem exists_queue_of_map {α : Type} {direction : Direction} {check : Queue → α} {answer : α}
    (h : (store.queue actor direction port).map check = .ok answer) :
    ∃ queue, store.queue actor direction port = .ok queue ∧ check queue = answer := by
  cases found : store.queue actor direction port with
  | error e => rw [found] at h; cases h
  | ok queue =>
      rw [found] at h
      cases h
      exact ⟨queue, rfl, rfl⟩

theorem write_between {before rest : List Step} {token : Token}
    (between : ∀ step ∈ before ++ .write actor port token :: rest, step.Between)
    (found : store.queue actor .output port = .ok queue)
    (room : queue.slotsAvailable
      (written actor port (before ++ .write actor port token :: rest)).length = true) :
    ((store.after before).write actor port token).2 = .ok () := by
  rw [written_append, List.length_append] at room
  obtain ⟨earlier, later⟩ := Queue.slotsAvailable_extend room
  have reached := queue_after_output
    (fun step member => between step (List.mem_append_left _ member)) found earlier
  refine (write_of_room reached (Queue.slotsAvailable_of_le ?_ later) token).1
  simp [Step.written]

/-- Every store keeps its promises, for all ports and counts. -/
theorem promise_kept (store : PortStore) (actor : ActorRef) (port : String) (count : Nat) :
    store.Promise actor port count where
  places confirmed := by
    obtain ⟨queue, found, room⟩ := exists_queue_of_map confirmed
    refine ⟨queue, found, fun steps between few => ?_⟩
    have enough := Queue.slotsAvailable_of_le few room
    refine ⟨?_, queue_after_output between found enough⟩
    rintro before token rest rfl
    exact write_between between found enough
  noPlaces refused := by
    obtain ⟨queue, found, room⟩ := exists_queue_of_map refused
    obtain ⟨⟨size, bound⟩, fewer⟩ := Queue.slotsAvailable_eq_false room
    refine ⟨queue, found, fewer, fun tokens => ⟨?_, queue_after_writes bound found tokens⟩⟩
    rintro before token rest -
    have reached := queue_after_writes bound found before
    have still : (queue.extend (before.take queue.vacancy)).capacity = .bounded size := bound
    have one := Queue.slotsAvailable_one still
    rw [Queue.vacancy_extend, List.length_take] at one
    refine ⟨fun free => (write_of_room reached ?_ token).1,
      fun full => write_of_full reached ?_ token⟩
    · rw [one, decide_eq_true_iff]
      omega
    · rw [one, decide_eq_false_iff_not]
      omega
  tokens confirmed := by
    obtain ⟨queue, found, enough⟩ := exists_queue_of_map confirmed
    refine ⟨queue, found, ?_, fun steps between spares => ?_⟩
    · rw [List.length_take, List.length_drop]
      exact Nat.min_eq_left (Queue.tokensAvailable_iff.1 enough)
    · obtain ⟨tokens, reached⟩ := queue_after_input between spares found
      rw [peek, onQueue_of_ok reached]
      have next := Queue.next_extend enough tokens
      generalize (queue.extend tokens).peek count = result at next ⊢
      obtain ⟨left, answer⟩ := result
      cases next
      rfl
  noTokens refused := by
    obtain ⟨queue, found, short⟩ := exists_queue_of_map refused
    have fewer : queue.available < count := by
      simpa [Queue.tokensAvailable] using short
    refine ⟨queue, found, fewer, ?_⟩
    have unread : queue.peek count = (queue, none) := by simp [Queue.peek, short]
    rw [peek, onQueue_of_ok found, unread]
    exact congrArg (·, _) (mapSide_onlyAt_self found)

/-- An actor with ports of one name in both directions, each with two places, and one token. -/
def namesakes : PortStore :=
  ({} : PortStore).after
    [.addPort 0 ⟨"a"⟩ .input "io" (some (.bounded 2)),
      .addPort 0 ⟨"a"⟩ .output "io" (some (.bounded 2)), .deliver ⟨"a"⟩ "io" (.data .null)]

/-- The places of the out-port are kept while the in-port of the same name is read, filled and
emptied, and another port is added and written to. -/
theorem namesakes_promise :
    namesakes.slotsAvailable ⟨"a"⟩ "io" 2 = .ok true ∧
      (namesakes.after
        [.peek ⟨"a"⟩ "io" 1, .write ⟨"a"⟩ "io" (.data (.int 1)),
          .deliver ⟨"a"⟩ "io" (.data (.bool true)), .commit ⟨"a"⟩ ["io"],
          .addPort 0 ⟨"a"⟩ .output "more" none, .write ⟨"a"⟩ "more" (.data .null),
          .write ⟨"a"⟩ "io" (.data (.int 2))]).queue ⟨"a"⟩ .output "io" =
        .ok { capacity := .bounded 2, tokens := [.data (.int 1), .data (.int 2)] } := by
  have confirmed : namesakes.slotsAvailable ⟨"a"⟩ "io" 2 = .ok true := rfl
  obtain ⟨queue, found, kept⟩ := (promise_kept namesakes ⟨"a"⟩ "io" 2).places confirmed
  obtain rfl : queue = { capacity := .bounded 2 } := (Except.ok.inj found).symm
  refine ⟨confirmed, (kept _ ?_ ?_).2⟩
  · simp [Step.Between]
  · decide +kernel

end PortStore

end Dataflow
