import Mathlib.Algebra.BigOperators.Group.List.Basic
import Mathlib.Algebra.GroupWithZero.Nat
import Mathlib.Algebra.Order.BigOperators.Group.List
import Mathlib.Algebra.Order.Group.Nat
import Dataflow.Proofs.Port.Transaction

/-!
# Counting what ports hold

The tokens on all ports of an actor together, and the places that are free on its bounded
out-ports.  Both are sums over the queues of one direction, `PortStore.tally`, and an operation of
the engine changes such a sum by the total of the declarations that it works off.

* `PortCount.sum_demand` — over different ports that include the declared ones, the demands sum up
  to the size of the declarations.
* `PortStore.tally_mapSide` — if each queue changes by the demand on its port, the sum changes by
  the size of the declarations.
* `PortStore.held_consume`, `PortStore.held_produce` — the tokens after a commit and after writes.
* `PortStore.vacancies_produce_le`, `PortStore.vacancies_produce_lt` — writes take up free places.
-/

namespace Dataflow

open PortCount

/-! ## Demands -/

theorem PortCount.sum_if_eq {names : List String} (distinct : names.Nodup) {entry : PortCount}
    (known : entry.port ∈ names) :
    (names.map fun port => if entry.port = port then entry.count else 0).sum = entry.count := by
  induction names with
  | nil => cases known
  | cons name rest ih =>
      obtain ⟨fresh, others⟩ := List.nodup_cons.1 distinct
      rw [List.map_cons, List.sum_cons]
      by_cases here : entry.port = name
      · have none :
            (rest.map fun port => if entry.port = port then entry.count else 0).sum = 0 := by
          refine List.sum_eq_zero fun amount member => ?_
          obtain ⟨port, listed, rfl⟩ := List.mem_map.1 member
          rw [if_neg]
          rintro rfl
          exact fresh (here ▸ listed)
        rw [if_pos here, none, Nat.add_zero]
      · have later : entry.port ∈ rest := (List.mem_cons.1 known).resolve_left here
        rw [if_neg here, ih others later, Nat.zero_add]

/-- Over different ports that include the declared ones, the demands sum up to all that is
declared. -/
theorem PortCount.sum_demand {names : List String} (distinct : names.Nodup)
    {declared : List PortCount} (known : ∀ entry ∈ declared, entry.port ∈ names) :
    (names.map fun port => demand port declared).sum = size declared := by
  induction declared with
  | nil => simp [size]
  | cons entry rest ih =>
      have here : entry.port ∈ names := known entry (List.mem_cons_self ..)
      have later := ih fun other member => known other (List.mem_cons_of_mem _ member)
      simp only [demand]
      rw [List.sum_map_add, sum_if_eq distinct here, later, size]

/-- The number of places that are free on a bounded queue. -/
def Queue.vacancy (queue : Queue) : Nat :=
  match queue.capacity with
  | .bounded size => size - queue.length
  | .unbounded => 0

namespace PortStore

variable {store : PortStore} {actor : ActorRef} {direction : Direction}

/-! ## All queues of one direction -/

/-- The queues of an actor in one direction, with the names of their ports. -/
def queues (store : PortStore) (actor : ActorRef) (direction : Direction) :
    List (String × Queue) :=
  match store.ports? actor with
  | none => []
  | some ports => (ports.side direction).entries

theorem queues_of_ports? {ports : PortSet} (h : store.ports? actor = some ports) :
    store.queues actor direction = (ports.side direction).entries := by
  simp only [queues, h]

/-- The queues of an actor are those that are found by name. -/
theorem mem_queues {port : String} {queue : Queue} :
    (port, queue) ∈ store.queues actor direction ↔
      store.queue actor direction port = .ok queue := by
  rw [queue_eq_ok_iff]
  cases known : store.ports? actor with
  | none => simp [queues, known]
  | some ports =>
      rw [queues_of_ports? known]
      constructor
      · intro member
        have distinct := (ports.side direction).ascending.nodup_names
        exact ⟨ports, rfl, Entries.find?_of_mem distinct member⟩
      · rintro ⟨_, ⟨⟩, found⟩
        exact Entries.mem_of_find? found

/-- No peek is pending if none is on any of the in-ports. -/
theorem unpeeked_of_queues (h : ∀ entry ∈ store.queues actor .input, entry.2.pending = 0) :
    store.Unpeeked actor :=
  fun port queue found => h (port, queue) (mem_queues.2 found)

theorem nodup_queues (store : PortStore) (actor : ActorRef) (direction : Direction) :
    ((store.queues actor direction).map Prod.fst).Nodup := by
  cases known : store.ports? actor with
  | none => simp [queues, known]
  | some ports =>
      rw [queues_of_ports? known]
      exact (ports.side direction).ascending.nodup_names

theorem queues_mapSide (store : PortStore) (actor : ActorRef) (direction : Direction)
    (f : String → Queue → Queue) :
    (store.mapSide actor direction f).queues actor direction =
      (store.queues actor direction).map fun entry => (entry.1, f entry.1 entry.2) := by
  cases known : store.ports? actor with
  | none => simp only [mapSide, known, queues, List.map_nil]
  | some ports =>
      have after : (store.mapSide actor direction f).ports? actor =
          some (ports.mapSide direction f) := by
        simp only [mapSide, known, ports?_setPorts_self]
      rw [queues_of_ports? after, queues_of_ports? known]
      cases direction <;> rfl

theorem queues_mapSide_of_ne (store : PortStore) (actor : ActorRef) {direction way : Direction}
    (h : way ≠ direction) (f : String → Queue → Queue) :
    (store.mapSide actor direction f).queues actor way = store.queues actor way := by
  cases known : store.ports? actor with
  | none => simp only [mapSide, known]
  | some ports =>
      have after : (store.mapSide actor direction f).ports? actor =
          some (ports.mapSide direction f) := by
        simp only [mapSide, known, ports?_setPorts_self]
      rw [queues_of_ports? after, queues_of_ports? known]
      cases direction <;> cases way
      · exact absurd rfl h
      · rfl
      · rfl
      · exact absurd rfl h

/-! ## Sums over queues -/

/-- The sum of a measure over the queues of an actor in one direction. -/
def tally (store : PortStore) (actor : ActorRef) (direction : Direction)
    (measure : Queue → Nat) : Nat :=
  ((store.queues actor direction).map fun entry => measure entry.2).sum

/-- The number of tokens queued on the ports of an actor in one direction. -/
def held (store : PortStore) (actor : ActorRef) (direction : Direction) : Nat :=
  store.tally actor direction Queue.length

/-- The number of places that are free on the bounded out-ports of an actor. -/
def vacancies (store : PortStore) (actor : ActorRef) : Nat :=
  store.tally actor .output Queue.vacancy

theorem tally_mapSide_of_ne {way : Direction} (h : way ≠ direction) (f : String → Queue → Queue)
    (measure : Queue → Nat) :
    (store.mapSide actor direction f).tally actor way measure =
      store.tally actor way measure := by
  rw [tally, tally, queues_mapSide_of_ne store actor h]

/-- If each queue loses the demand on its port by some declarations and gains the one by others,
the sum loses and gains the size of the declarations. -/
theorem tally_mapSide {f : String → Queue → Queue} {measure : Queue → Nat}
    {lost gained : List PortCount}
    (known : ∀ entry ∈ lost ++ gained, ∃ queue,
      store.queue actor direction entry.port = .ok queue)
    (each : ∀ port queue, store.queue actor direction port = .ok queue →
      measure (f port queue) + demand port lost = measure queue + demand port gained) :
    (store.mapSide actor direction f).tally actor direction measure + size lost =
      store.tally actor direction measure + size gained := by
  have distinct := store.nodup_queues actor direction
  have listed : ∀ entry ∈ lost ++ gained,
      entry.port ∈ (store.queues actor direction).map Prod.fst := by
    intro entry member
    obtain ⟨queue, found⟩ := known entry member
    exact List.mem_map.2 ⟨(entry.port, queue), mem_queues.2 found, rfl⟩
  have total : ∀ {declared : List PortCount}, (∀ entry ∈ declared, entry ∈ lost ++ gained) →
      ((store.queues actor direction).map fun entry => demand entry.1 declared).sum =
        size declared := by
    intro declared part
    have all := sum_demand distinct fun entry member => listed entry (part entry member)
    rwa [List.map_map] at all
  have losses := total fun entry member => List.mem_append_left gained member
  have gains := total fun entry member => List.mem_append_right lost member
  rw [tally, tally, queues_mapSide, List.map_map, ← losses, ← gains, ← List.sum_map_add,
    ← List.sum_map_add]
  refine congrArg List.sum (List.map_congr_left fun entry member => ?_)
  exact each entry.1 entry.2 (mem_queues.1 member)

/-! ## Commits and writes -/

/-- A commit takes nothing off the out-ports. -/
theorem tally_consume_output (store : PortStore) (actor : ActorRef) (inputs : List PortCount)
    (measure : Queue → Nat) :
    (store.consume actor inputs).tally actor .output measure =
      store.tally actor .output measure := by
  rw [consume, tally_mapSide_of_ne (by simp)]

/-- Writes put nothing on the in-ports. -/
theorem tally_produce_input (store : PortStore) (actor : ActorRef)
    (assigned : List (String × Value)) (measure : Queue → Nat) :
    (store.produce actor assigned).tally actor .input measure =
      store.tally actor .input measure := by
  rw [produce, tally_mapSide_of_ne (by simp)]

/-- A commit takes the declared number of tokens off the in-ports. -/
theorem held_consume {inputs : List PortCount}
    (enough : ∀ input ∈ inputs, ∃ queue, store.queue actor .input input.port = .ok queue ∧
      demand input.port inputs ≤ queue.length) :
    (store.consume actor inputs).held actor .input + size inputs = store.held actor .input := by
  have known : ∀ entry ∈ inputs ++ [], ∃ queue,
      store.queue actor .input entry.port = .ok queue := by
    intro entry member
    rw [List.append_nil] at member
    obtain ⟨queue, found, -⟩ := enough entry member
    exact ⟨queue, found⟩
  refine tally_mapSide known fun port queue found => ?_
  have below : demand port inputs ≤ queue.length := by
    by_cases declared : port ∈ inputs.map PortCount.port
    · obtain ⟨input, member, rfl⟩ := List.mem_map.1 declared
      obtain ⟨other, found', below⟩ := enough input member
      rw [found] at found'
      cases found'
      exact below
    · rw [demand_eq_zero declared]
      exact Nat.zero_le _
  simp only [Queue.length, List.length_drop, demand_nil] at below ⊢
  omega

/-- Writes add the declared number of tokens to the out-ports. -/
theorem held_produce {outputs : List PortCount} {assigned : List (String × Value)}
    (known : ∀ output ∈ outputs, ∃ queue, store.queue actor .output output.port = .ok queue)
    (amounts : ∀ port, (valuesFor port assigned).length = demand port outputs) :
    (store.produce actor assigned).held actor .output =
      store.held actor .output + size outputs := by
  have known : ∀ entry ∈ [] ++ outputs, ∃ queue,
      store.queue actor .output entry.port = .ok queue := known
  refine tally_mapSide known fun port queue _ => ?_
  simp only [Queue.length, List.length_append, List.length_map, amounts, demand_nil]
  omega

theorem vacancy_append_le (queue : Queue) (tokens : List Token) :
    ({ queue with tokens := queue.tokens ++ tokens } : Queue).vacancy ≤ queue.vacancy := by
  cases bound : queue.capacity with
  | unbounded => simp [Queue.vacancy, bound]
  | bounded size =>
      simp only [Queue.vacancy, bound, Queue.length, List.length_append]
      omega

/-- Tokens that there is room for take up free places. -/
theorem vacancy_append_lt {queue : Queue} {tokens : List Token} {size : Nat}
    (bound : queue.capacity = .bounded size) (added : 0 < tokens.length)
    (room : queue.slotsAvailable tokens.length = true) :
    ({ queue with tokens := queue.tokens ++ tokens } : Queue).vacancy < queue.vacancy := by
  have free := Queue.slotsAvailable_iff.1 room size bound
  simp only [Queue.vacancy, bound, Queue.length, List.length_append] at free ⊢
  omega

/-- Writes free no place of an out-port. -/
theorem vacancies_produce_le (store : PortStore) (actor : ActorRef)
    (assigned : List (String × Value)) :
    (store.produce actor assigned).vacancies actor ≤ store.vacancies actor := by
  rw [vacancies, vacancies, tally, tally, produce, queues_mapSide, List.map_map]
  exact List.sum_le_sum fun entry _ => vacancy_append_le entry.2 _

/-- Writes to a bounded out-port that has room for them take up places. -/
theorem vacancies_produce_lt {assigned : List (String × Value)} {port : String} {queue : Queue}
    {size : Nat} (found : store.queue actor .output port = .ok queue)
    (bound : queue.capacity = .bounded size) (added : 0 < (valuesFor port assigned).length)
    (room : queue.slotsAvailable (valuesFor port assigned).length = true) :
    (store.produce actor assigned).vacancies actor < store.vacancies actor := by
  rw [vacancies, vacancies, tally, tally, produce, queues_mapSide, List.map_map]
  refine List.sum_lt_sum _ _ (fun entry _ => vacancy_append_le entry.2 _)
    ⟨(port, queue), mem_queues.2 found, vacancy_append_lt bound ?_ ?_⟩
  · rwa [List.length_map]
  · rwa [List.length_map]

end PortStore

end Dataflow
