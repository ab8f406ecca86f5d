import Dataflow.Action.Attempt
import Dataflow.Proofs.Port.Demand
import Dataflow.Proofs.Port.Store

/-!
# Reading and writing as a transaction

What the three operations of a read and the writes after it do to a store whose in-ports start
without a pending peek.  The cursors of an actor's in-ports are kept apart from its queues: the
store in which the cursor of each in-port stands at `cursor port` is `PortStore.peeked`.

* `PortStore.peekAll_peeked` — if every in-port holds the demand on it, all peeks succeed, hand
  out `PortStore.nextTokens`, and move each cursor by the demand on its port.
* `PortStore.cancel_peeked` — a cancel moves the cursors back and does nothing else.
* `PortStore.commit_peeked` — a commit takes the demand off every in-port.
* `PortStore.writeAll_eq` — if every out-port has room for its values, all writes succeed.
-/

namespace Dataflow

open PortCount

/-! ## Room in a queue -/

namespace Queue

theorem tokensAvailable_iff {queue : Queue} {n : Nat} :
    queue.tokensAvailable n = true ↔ n ≤ queue.length - queue.pending := by
  rw [tokensAvailable, decide_eq_true_iff, available]

theorem slotsAvailable_iff {queue : Queue} {n : Nat} :
    queue.slotsAvailable n = true ↔
      ∀ size, queue.capacity = .bounded size → n ≤ size - queue.length := by
  cases bound : queue.capacity <;> simp [slotsAvailable, bound]

/-- Room for some more tokens is room for one, and afterwards for the others. -/
theorem slotsAvailable_succ {queue : Queue} {n : Nat} (token : Token)
    (h : queue.slotsAvailable (n + 1) = true) :
    queue.slotsAvailable 1 = true ∧
      ({ queue with tokens := queue.tokens ++ [token] } : Queue).slotsAvailable n = true := by
  rw [slotsAvailable_iff] at h
  constructor
  · rw [slotsAvailable_iff]
    intro size bound
    have free := h size bound
    omega
  · rw [slotsAvailable_iff]
    intro size bound
    have free := h size bound
    rw [length] at free ⊢
    rw [List.length_append, List.length_singleton]
    omega

end Queue

namespace PortStore

variable {store : PortStore} {actor : ActorRef}

/-- The tokens queued on a port; there are none on a port that does not exist. -/
def tokensOn (store : PortStore) (actor : ActorRef) (direction : Direction) (port : String) :
    List Token :=
  match store.queue actor direction port with
  | .ok queue => queue.tokens
  | .error _ => []

theorem tokensOn_of_ok {direction : Direction} {port : String} {queue : Queue}
    (h : store.queue actor direction port = .ok queue) :
    store.tokensOn actor direction port = queue.tokens := by
  simp only [tokensOn, h]

/-! ## Cursors -/

/-- No token of the actor's in-ports is handed out. -/
def Unpeeked (store : PortStore) (actor : ActorRef) : Prop :=
  ∀ port queue, store.queue actor .input port = .ok queue → queue.pending = 0

/-- The store with the cursors of the actor's in-ports at the given places. -/
def peeked (store : PortStore) (actor : ActorRef) (cursor : String → Nat) : PortStore :=
  store.mapSide actor .input fun port queue => { queue with pending := cursor port }

theorem peeked_zero (h : store.Unpeeked actor) : store.peeked actor (fun _ => 0) = store := by
  refine mapSide_eq_self fun port queue found => ?_
  rw [← h port queue found]

theorem peeked_congr {cursor cursor' : String → Nat}
    (h : ∀ port queue, store.queue actor .input port = .ok queue →
      cursor port = cursor' port) :
    store.peeked actor cursor = store.peeked actor cursor' := by
  refine mapSide_congr fun port queue found => ?_
  rw [h port queue found]

theorem queue_peeked {cursor : String → Nat} {port : String} {queue : Queue}
    (h : store.queue actor .input port = .ok queue) :
    (store.peeked actor cursor).queue actor .input port =
      .ok { queue with pending := cursor port } :=
  queue_mapSide_self _ h

/-- The tokens that declarations read next: each takes up where the earlier ones on its port
stopped. -/
def nextTokens (store : PortStore) (actor : ActorRef) :
    (String → Nat) → List PortCount → List Token
  | _, [] => []
  | cursor, input :: rest =>
    ((store.tokensOn actor .input input.port).drop (cursor input.port)).take input.count ++
      nextTokens store actor (fun port => cursor port + demand port [input]) rest

/-- The tokens that declarations read from the start of each port's queue. -/
def reads (store : PortStore) (actor : ActorRef) (inputs : List PortCount) : List Token :=
  store.nextTokens actor (fun _ => 0) inputs

theorem peek_peeked (cursor : String → Nat) {input : PortCount} {queue : Queue}
    (found : store.queue actor .input input.port = .ok queue)
    (enough : cursor input.port + input.count ≤ queue.length) :
    (store.peeked actor cursor).peek actor input.port input.count =
      (store.peeked actor fun port => cursor port + demand port [input],
        .ok ((queue.tokens.drop (cursor input.port)).take input.count)) := by
  have available : ({ queue with pending := cursor input.port } : Queue).tokensAvailable
      input.count = true := by
    rw [Queue.tokensAvailable_iff]
    show input.count ≤ queue.length - cursor input.port
    omega
  rw [peek, onQueue_of_ok (queue_peeked found)]
  simp only [Queue.peek, if_pos available]
  congr 1
  rw [peeked, peeked, mapSide_mapSide]
  refine mapSide_congr_at found ?_ fun port other different => ?_
  · simp [onlyAt, demand]
  · simp [onlyAt, different, demand, different.symm]

/-- If every in-port holds the demand on it past its cursor, all peeks succeed. -/
theorem peekAll_peeked {inputs : List PortCount} (cursor : String → Nat)
    (h : ∀ input ∈ inputs, ∃ queue, store.queue actor .input input.port = .ok queue ∧
      cursor input.port + demand input.port inputs ≤ queue.length) :
    Action.peekAll actor inputs (store.peeked actor cursor) =
      (store.peeked actor fun port => cursor port + demand port inputs,
        .ok (store.nextTokens actor cursor inputs)) := by
  induction inputs generalizing cursor with
  | nil => simp [Action.peekAll, nextTokens]
  | cons input rest ih =>
      obtain ⟨queue, found, enough⟩ := h input (List.mem_cons_self ..)
      rw [demand_cons_self] at enough
      have later : ∀ other ∈ rest, ∃ queue, store.queue actor .input other.port = .ok queue ∧
          cursor other.port + demand other.port [input] + demand other.port rest ≤
            queue.length := by
        intro other member
        obtain ⟨queue, found, enough⟩ := h other (List.mem_cons_of_mem _ member)
        refine ⟨queue, found, ?_⟩
        rwa [Nat.add_assoc, ← demand_append, List.singleton_append]
      have first := peek_peeked cursor found (by omega)
      have tokens := tokensOn_of_ok found
      have others := ih (fun port => cursor port + demand port [input]) later
      simp only [Action.peekAll, PortAccess.peek, first, others, nextTokens, tokens, Except.map]
      congr 1
      refine peeked_congr fun port _ _ => ?_
      rw [Nat.add_assoc, ← demand_append, List.singleton_append]

/-! ## Cancelling -/

/-- A cancel moves back the cursors of the ports it is given. -/
theorem cancel_peeked {names : List String} {cursor : String → Nat}
    (known : ∀ name ∈ names, ∃ queue, store.queue actor .input name = .ok queue) :
    (store.peeked actor cursor).cancel actor names =
      (store.peeked actor fun port => if port ∈ names then 0 else cursor port, .ok ()) := by
  induction names generalizing cursor with
  | nil => simp [cancel]
  | cons name rest ih =>
      obtain ⟨queue, found⟩ := known name (List.mem_cons_self ..)
      have moved : (store.peeked actor cursor).setQueue actor .input name
          ({ queue with pending := cursor name } : Queue).cancel =
            store.peeked actor fun port => if port = name then 0 else cursor port := by
        rw [setQueue_eq_mapSide (queue_peeked found), peeked, peeked, mapSide_mapSide]
        refine mapSide_congr_at found ?_ fun port other different => ?_
        · simp [onlyAt, Queue.cancel]
        · simp [onlyAt, different]
      simp only [cancel, queue_peeked found, moved,
        ih fun other member => known other (List.mem_cons_of_mem _ member)]
      congr 1
      refine peeked_congr fun port _ _ => ?_
      by_cases here : port = name
      · simp [here]
      · simp [here]

/-- Cancelling the peeks of declarations leaves no trace of them. -/
theorem cancel_peekAll {inputs : List PortCount} (clean : store.Unpeeked actor)
    (known : ∀ input ∈ inputs, ∃ queue, store.queue actor .input input.port = .ok queue) :
    (store.peeked actor fun port => demand port inputs).cancel actor (ports inputs) =
      (store, .ok ()) := by
  have all : ∀ name ∈ ports inputs, ∃ queue, store.queue actor .input name = .ok queue := by
    intro name member
    obtain ⟨input, declared, rfl⟩ := List.mem_map.1 (mem_ports.1 member)
    exact known input declared
  rw [cancel_peeked all]
  congr 1
  refine Eq.trans (peeked_congr fun port _ _ => ?_) (peeked_zero clean)
  split
  · rfl
  · rename_i absent
    exact demand_eq_zero fun member => absent (mem_ports.2 member)

/-! ## Committing -/

/-- The store with the demand of declarations taken off the actor's in-ports. -/
def consume (store : PortStore) (actor : ActorRef) (inputs : List PortCount) : PortStore :=
  store.mapSide actor .input fun port queue =>
    { queue with tokens := queue.tokens.drop (demand port inputs) }

/-- The out-ports have no part in a commit. -/
theorem queue_consume_output (store : PortStore) (actor : ActorRef) (inputs : List PortCount)
    (port : String) :
    (store.consume actor inputs).queue actor .output port = store.queue actor .output port := by
  rw [consume, queue_mapSide_of_ne _ _ (by simp)]

/-- The ports among the given ones that are empty. -/
def emptied (store : PortStore) (actor : ActorRef) (names : List String) : NameSet :=
  (names.filter fun port => (store.tokensOn actor .input port).isEmpty).foldl NameSet.add ∅

/-- The store after a commit of some in-ports. -/
def committed (store : PortStore) (actor : ActorRef) (names : List String) : PortStore :=
  store.mapSide actor .input fun port queue => if port ∈ names then queue.commit.1 else queue

theorem committed_cons {name : String} {queue : Queue} (rest : List String)
    (found : store.queue actor .input name = .ok queue) :
    (store.setQueue actor .input name queue.commit.1).committed actor rest =
      store.committed actor (name :: rest) := by
  rw [setQueue_eq_mapSide found, committed, committed, mapSide_mapSide]
  refine mapSide_congr_at found ?_ fun port other different => ?_
  · by_cases again : name ∈ rest <;> simp [onlyAt, again, Queue.commit]
  · simp [onlyAt, different]

theorem commitEach_eq {names : List String}
    (known : ∀ name ∈ names, ∃ queue, store.queue actor .input name = .ok queue)
    (exhausted : NameSet) :
    commitEach actor names store exhausted =
      (store.committed actor names,
        (names.filter fun port =>
          ((store.committed actor names).tokensOn actor .input port).isEmpty).foldl
            NameSet.add exhausted) := by
  induction names generalizing store exhausted with
  | nil => simp [commitEach, committed, mapSide_eq_self]
  | cons name rest ih =>
      obtain ⟨queue, found⟩ := known name (List.mem_cons_self ..)
      have later : ∀ other ∈ rest, ∃ queue',
          (store.setQueue actor .input name queue.commit.1).queue actor .input other =
            .ok queue' := by
        intro other member
        obtain ⟨queue', found'⟩ := known other (List.mem_cons_of_mem _ member)
        rw [setQueue_eq_mapSide found]
        exact ⟨_, queue_mapSide_self _ found'⟩
      have left : ((store.committed actor (name :: rest)).tokensOn actor .input name).isEmpty =
          queue.commit.1.isEmpty := by
        refine congrArg List.isEmpty (tokensOn_of_ok ((queue_mapSide_self _ found).trans ?_))
        rw [if_pos (List.mem_cons_self ..)]
      simp only [commitEach, found, ih later, committed_cons rest found, List.filter_cons, left]
      by_cases empty : queue.commit.1.isEmpty = true
      · rw [if_pos empty, if_pos empty, List.foldl_cons]
      · rw [if_neg empty, if_neg empty]

theorem forM_queue_ok {names : List String}
    (known : ∀ name ∈ names, ∃ queue, store.queue actor .input name = .ok queue) :
    (names.forM fun port => (store.queue actor .input port).map fun _ => ()) = .ok () := by
  induction names with
  | nil => rfl
  | cons name rest ih =>
      obtain ⟨queue, found⟩ := known name (List.mem_cons_self ..)
      rw [List.forM_eq_forM, List.forM_cons, found]
      exact ih fun other member => known other (List.mem_cons_of_mem _ member)

/-- Committing the peeks of declarations takes their demand off the in-ports. -/
theorem commit_peeked {inputs : List PortCount} (clean : store.Unpeeked actor)
    (known : ∀ input ∈ inputs, ∃ queue, store.queue actor .input input.port = .ok queue) :
    (store.peeked actor fun port => demand port inputs).commit actor (ports inputs) =
      (store.consume actor inputs,
        .ok ((store.consume actor inputs).emptied actor (ports inputs))) := by
  have all : ∀ name ∈ ports inputs, ∃ queue,
      (store.peeked actor fun port => demand port inputs).queue actor .input name =
        .ok queue := by
    intro name member
    obtain ⟨input, declared, rfl⟩ := List.mem_map.1 (mem_ports.1 member)
    obtain ⟨queue, found⟩ := known input declared
    exact ⟨_, queue_peeked found⟩
  have result : (store.peeked actor fun port => demand port inputs).committed actor
      (ports inputs) = store.consume actor inputs := by
    rw [committed, peeked, mapSide_mapSide, consume]
    refine mapSide_congr fun port queue found => ?_
    have start := clean port queue found
    split
    · simp [Queue.commit, start]
    · rename_i absent
      rw [demand_eq_zero fun member => absent (mem_ports.2 member), List.drop_zero, ← start]
  simp only [commit, forM_queue_ok all, commitEach_eq all, result, emptied]

/-! ## Writing -/

/-- The values meant for a port. -/
def valuesFor (port : String) (assigned : List (String × Value)) : List Value :=
  assigned.filterMap fun entry => if entry.1 = port then some entry.2 else none

/-- The store with values appended to the actor's out-ports as data tokens. -/
def produce (store : PortStore) (actor : ActorRef) (assigned : List (String × Value)) :
    PortStore :=
  store.mapSide actor .output fun port queue =>
    { queue with tokens := queue.tokens ++ (valuesFor port assigned).map Token.data }

theorem length_valuesFor_cons_self (entry : String × Value) (rest : List (String × Value)) :
    (valuesFor entry.1 (entry :: rest)).length = (valuesFor entry.1 rest).length + 1 := by
  simp [valuesFor]

theorem valuesFor_cons_of_ne {entry : String × Value} {port : String} (h : entry.1 ≠ port)
    (rest : List (String × Value)) : valuesFor port (entry :: rest) = valuesFor port rest := by
  simp [valuesFor, h]

/-- If every out-port has room for its values, all writes succeed. -/
theorem writeAll_eq {assigned : List (String × Value)}
    (room : ∀ entry ∈ assigned, ∃ queue, store.queue actor .output entry.1 = .ok queue ∧
      queue.slotsAvailable (valuesFor entry.1 assigned).length = true) :
    Action.writeAll actor assigned store = (store.produce actor assigned, .ok ()) := by
  induction assigned generalizing store with
  | nil => simp [Action.writeAll, produce, valuesFor, mapSide_eq_self]
  | cons entry rest ih =>
      obtain ⟨queue, found, free⟩ := room entry (List.mem_cons_self ..)
      rw [length_valuesFor_cons_self] at free
      obtain ⟨one, others⟩ := Queue.slotsAvailable_succ (.data entry.2) free
      have written : store.write actor entry.1 (.data entry.2) =
          (store.mapSide actor .output (onlyAt entry.1 fun _ =>
            { queue with tokens := queue.tokens ++ [.data entry.2] }), .ok ()) := by
        rw [write, onQueue_of_ok found]
        simp only [append, Queue.write?, if_pos one]
      have later : ∀ other ∈ rest, ∃ queue',
          (store.mapSide actor .output (onlyAt entry.1 fun _ =>
            { queue with tokens := queue.tokens ++ [.data entry.2] })).queue actor .output
              other.1 = .ok queue' ∧
          queue'.slotsAvailable (valuesFor other.1 rest).length = true := by
        intro other member
        obtain ⟨queue', found', free'⟩ := room other (List.mem_cons_of_mem _ member)
        refine ⟨_, queue_mapSide_self _ found', ?_⟩
        by_cases here : other.1 = entry.1
        · rw [onlyAt, if_pos here, here]
          exact others
        · rw [onlyAt, if_neg here]
          rwa [valuesFor_cons_of_ne (Ne.symm here)] at free'
      simp only [Action.writeAll, PortAccess.write, written, ih later]
      congr 1
      rw [produce, produce, mapSide_mapSide]
      refine mapSide_congr_at found ?_ fun port other different => ?_
      · simp [onlyAt, valuesFor]
      · simp [onlyAt, different, valuesFor_cons_of_ne different.symm]

theorem exists_output_of_mem_assign {outputs : List PortCount} {values : List Value}
    {entry : String × Value} (h : entry ∈ Action.assign outputs values) :
    ∃ output ∈ outputs, output.port = entry.1 := by
  induction outputs generalizing values with
  | nil => simp [Action.assign] at h
  | cons output rest ih =>
      rcases List.mem_append.1 h with h | h
      · obtain ⟨value, -, rfl⟩ := List.mem_map.1 h
        exact ⟨output, List.mem_cons_self .., rfl⟩
      · obtain ⟨other, member, same⟩ := ih h
        exact ⟨other, List.mem_cons_of_mem _ member, same⟩

/-- Of the declared number of values, each port is assigned the demand on it. -/
theorem length_valuesFor_assign {outputs : List PortCount} {values : List Value}
    (h : values.length = size outputs) (port : String) :
    (valuesFor port (Action.assign outputs values)).length = demand port outputs := by
  induction outputs generalizing values with
  | nil => rfl
  | cons output rest ih =>
      rw [size] at h
      have rest' : (values.drop output.count).length = size rest := by
        rw [List.length_drop]
        omega
      have split : valuesFor port (Action.assign (output :: rest) values) =
          valuesFor port ((values.take output.count).map (output.port, ·)) ++
            valuesFor port (Action.assign rest (values.drop output.count)) := by
        simp [Action.assign, valuesFor]
      rw [split, List.length_append, ih rest', demand]
      congr 1
      by_cases here : output.port = port
      · simp only [valuesFor, List.filterMap_map, if_pos here, Function.comp_def,
          List.filterMap_some, List.length_take]
        omega
      · simp only [valuesFor, List.filterMap_map, if_neg here, Function.comp_def,
          List.filterMap_none, List.length_nil]

end PortStore

end Dataflow
