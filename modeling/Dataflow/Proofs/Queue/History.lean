import Dataflow.Proofs.Port.Portable

/-!
# The history of a queue

Writing, peeking, committing, cancelling and draining share one cursor.  A queue is followed through
any sequence of them, with a record of what each one answered.

* `Queue.apply`, `Queue.applyAll` — one operation, and one after the other, with their events.
* `Queue.Applied` — what an operation does, case by case.  Each law of a history is first a law of
  one operation: the cursor stays inside (`Applied.pending_le`), what was handed out lies before it
  (`Applied.handed`), and no token is lost or made (`Applied.kept`, `Applied.inOrder`).
* `Queue.History` — the laws of a history.  `Queue.applyAll_history` says that every queue that is
  new or was read from its portable form obeys them.
-/

namespace Dataflow

namespace Queue

/-! ## Operations and events -/

/-- What can be done to a queue. -/
inductive Operation where
  | write (token : Token)
  | peek (count : Nat)
  | commit
  | cancel
  | drain

/-- What came of an operation. -/
inductive Event where
  | wrote (token : Token)
  /-- The token was refused. -/
  | full (token : Token)
  | peeked (tokens : List Token)
  /-- There were fewer tokens past the cursor. -/
  | short (count : Nat)
  /-- These tokens were removed by a commit. -/
  | committed (tokens : List Token)
  | cancelled
  | drained (tokens : List Token)

namespace Event

/-- The tokens that entered the queue. -/
def accepted : Event → List Token
  | wrote token => [token]
  | _ => []

/-- The tokens that left the queue. -/
def removed : Event → List Token
  | committed tokens | drained tokens => tokens
  | _ => []

/-- Whether the operation was refused. -/
def refused : Event → Bool
  | full _ | short _ => true
  | _ => false

/-- The tokens handed out since the last commit or cancel, given those before the event. -/
def hand (taken : List Token) : Event → List Token
  | peeked tokens => taken ++ tokens
  | committed _ | cancelled => []
  | _ => taken

end Event

/-- The results of the successful peeks since the last commit or cancel, one after the other. -/
def handedOut (events : List Event) : List Token := events.foldl Event.hand []

/-- The queue after an operation, and what came of it. -/
def apply (queue : Queue) : Operation → Queue × Event
  | .write token =>
    match queue.write? token with
    | some next => (next, .wrote token)
    | none => (queue, .full token)
  | .peek count =>
    match queue.peek count with
    | (next, some tokens) => (next, .peeked tokens)
    | (next, none) => (next, .short count)
  | .commit => (queue.commit.1, .committed (queue.tokens.take queue.commit.2))
  | .cancel => (queue.cancel, .cancelled)
  | .drain => (queue.drain.1, .drained queue.drain.2)

/-- The queue after some operations, and what came of each. -/
def applyAll (queue : Queue) : List Operation → Queue × List Event
  | [] => (queue, [])
  | operation :: rest =>
    let later := (queue.apply operation).1.applyAll rest
    (later.1, (queue.apply operation).2 :: later.2)

/-! ## One operation -/

/-- The outcomes of an operation. -/
inductive Applied (queue : Queue) : Operation → Queue → Event → Prop
  | wrote (token : Token) : queue.slotsAvailable 1 = true →
      Applied queue (.write token) { queue with tokens := queue.tokens ++ [token] } (.wrote token)
  | full (token : Token) : queue.slotsAvailable 1 = false →
      Applied queue (.write token) queue (.full token)
  | peeked (count : Nat) : count ≤ queue.length - queue.pending →
      Applied queue (.peek count) { queue with pending := queue.pending + count }
        (.peeked ((queue.tokens.drop queue.pending).take count))
  | short (count : Nat) : queue.length - queue.pending < count →
      Applied queue (.peek count) queue (.short count)
  | committed : Applied queue .commit
      { queue with tokens := queue.tokens.drop queue.pending, pending := 0 }
      (.committed (queue.tokens.take queue.pending))
  | cancelled : Applied queue .cancel { queue with pending := 0 } .cancelled
  | drained : Applied queue .drain
      { queue with tokens := queue.tokens.take queue.pending }
      (.drained (queue.tokens.drop queue.pending))

theorem apply_applied (queue : Queue) (operation : Operation) :
    Applied queue operation (queue.apply operation).1 (queue.apply operation).2 := by
  cases operation with
  | write token =>
      cases room : queue.slotsAvailable 1 with
      | true =>
          simp only [apply, write?, room, if_true]
          exact .wrote token room
      | false =>
          simp only [apply, write?, room, Bool.false_eq_true, if_false]
          exact .full token room
  | peek count =>
      cases enough : queue.tokensAvailable count with
      | true =>
          simp only [apply, peek, enough, if_true]
          exact .peeked count (tokensAvailable_iff.1 enough)
      | false =>
          have few := mt tokensAvailable_iff.2 (Bool.eq_false_iff.1 enough)
          simp only [apply, peek, enough, Bool.false_eq_true, if_false]
          exact .short count (by omega)
  | commit => exact .committed
  | cancel => exact .cancelled
  | drain => exact .drained

namespace Applied

variable {queue next : Queue} {operation : Operation} {event : Event}

theorem capacity (h : Applied queue operation next event) : next.capacity = queue.capacity := by
  cases h <;> rfl

/-- The cursor stays within the queue. -/
theorem pending_le (h : Applied queue operation next event)
    (within : queue.pending ≤ queue.length) : next.pending ≤ next.length := by
  rw [length] at within ⊢
  cases h with
  | wrote token =>
      rw [List.length_append]
      exact Nat.le_add_right_of_le within
  | full => exact within
  | peeked count enough =>
      rw [length] at enough
      show queue.pending + count ≤ queue.tokens.length
      omega
  | short => exact within
  | committed => exact Nat.zero_le _
  | cancelled => exact Nat.zero_le _
  | drained =>
      rw [List.length_take]
      exact Nat.le_min.2 ⟨Nat.le_refl _, within⟩

/-- What was handed out lies before the cursor. -/
theorem handed (h : Applied queue operation next event)
    (within : queue.pending ≤ queue.length) :
    next.tokens.take next.pending = event.hand (queue.tokens.take queue.pending) := by
  cases h with
  | wrote token => exact List.take_append_of_le_length within
  | full => rfl
  | peeked count => exact List.take_add
  | short => rfl
  | committed => exact List.take_zero
  | cancelled => exact List.take_zero
  | drained =>
      show (queue.tokens.take queue.pending).take queue.pending = queue.tokens.take queue.pending
      rw [List.take_take, Nat.min_self]

/-- Tokens leave at the front and enter at the back, unless a drain leaves behind some that were
handed out. -/
theorem inOrder (h : Applied queue operation next event)
    (rested : operation = .drain → queue.pending = 0) :
    event.removed ++ next.tokens = queue.tokens ++ event.accepted := by
  cases h with
  | wrote token => rfl
  | full => exact (List.append_nil _).symm
  | peeked count => exact (List.append_nil _).symm
  | short => exact (List.append_nil _).symm
  | committed =>
      show queue.tokens.take queue.pending ++ queue.tokens.drop queue.pending = queue.tokens ++ []
      rw [List.take_append_drop, List.append_nil]
  | cancelled => exact (List.append_nil _).symm
  | drained =>
      show queue.tokens.drop queue.pending ++ queue.tokens.take queue.pending = queue.tokens ++ []
      rw [rested rfl, List.drop_zero, List.take_zero]

/-- No token is lost or made. -/
theorem kept (h : Applied queue operation next event) :
    (event.removed ++ next.tokens).Perm (queue.tokens ++ event.accepted) := by
  by_cases drains : operation = .drain
  · subst drains
    cases h with
    | drained =>
        show (queue.tokens.drop queue.pending ++ queue.tokens.take queue.pending).Perm
          (queue.tokens ++ [])
        rw [List.append_nil]
        exact List.perm_append_comm.trans (.of_eq (List.take_append_drop ..))
  · exact .of_eq (h.inOrder fun same => absurd same drains)

/-- A queue grows only while there is room. -/
theorem length_le (h : Applied queue operation next event) {size : Nat}
    (bound : queue.capacity = .bounded size) : next.length ≤ max size queue.length := by
  rw [length, length]
  cases h with
  | wrote token room =>
      have free := slotsAvailable_iff.1 room size bound
      rw [length] at free
      rw [List.length_append, List.length_singleton]
      omega
  | full => exact Nat.le_max_right ..
  | peeked => exact Nat.le_max_right ..
  | short => exact Nat.le_max_right ..
  | committed =>
      rw [List.length_drop]
      omega
  | cancelled => exact Nat.le_max_right ..
  | drained =>
      rw [List.length_take]
      omega

theorem refused (h : Applied queue operation next event) (refusal : event.refused = true) :
    next = queue := by
  cases h with
  | full => rfl
  | short => rfl
  | _ => cases refusal

end Applied

/-- A write is refused just when the queue is full. -/
theorem refused_write_iff (queue : Queue) (token : Token) :
    (queue.apply (.write token)).2.refused = true ↔
      ∃ size, queue.capacity = .bounded size ∧ size ≤ queue.length := by
  have applied := queue.apply_applied (.write token)
  generalize (queue.apply (.write token)).1 = next at applied
  generalize (queue.apply (.write token)).2 = event at applied ⊢
  cases applied with
  | wrote _ room =>
      refine ⟨nofun, ?_⟩
      rintro ⟨size, bound, full⟩
      have free := slotsAvailable_iff.1 room size bound
      omega
  | full _ room =>
      refine iff_of_true rfl ?_
      have refusal := mt slotsAvailable_iff.2 (Bool.eq_false_iff.1 room)
      simp only [Classical.not_forall] at refusal
      obtain ⟨size, bound, few⟩ := refusal
      exact ⟨size, bound, by omega⟩

/-- A peek is refused just when fewer tokens lie past the cursor. -/
theorem refused_peek_iff (queue : Queue) (count : Nat) :
    (queue.apply (.peek count)).2.refused = true ↔ queue.length - queue.pending < count := by
  have applied := queue.apply_applied (.peek count)
  generalize (queue.apply (.peek count)).1 = next at applied
  generalize (queue.apply (.peek count)).2 = event at applied ⊢
  cases applied with
  | peeked _ enough => exact ⟨nofun, fun few => absurd enough (Nat.not_le.2 few)⟩
  | short _ few => exact iff_of_true rfl few

/-! ## Histories -/

section

variable (queue : Queue) (operations : List Operation)

theorem capacity_applyAll : (queue.applyAll operations).1.capacity = queue.capacity := by
  induction operations generalizing queue with
  | nil => rfl
  | cons operation rest ih => exact (ih _).trans (queue.apply_applied operation).capacity

theorem length_applyAll_le {size : Nat} (bound : queue.capacity = .bounded size) :
    (queue.applyAll operations).1.length ≤ max size queue.length := by
  induction operations generalizing queue with
  | nil => exact Nat.le_max_right ..
  | cons operation rest ih =>
      have applied := queue.apply_applied operation
      have here := applied.length_le bound
      have later := ih _ (applied.capacity.trans bound)
      exact Nat.le_trans later (Nat.max_le.2 ⟨Nat.le_max_left .., here⟩)

/-- What the events say was handed out lies before the cursor. -/
theorem take_pending_applyAll (within : queue.pending ≤ queue.length) :
    (queue.applyAll operations).1.pending ≤ (queue.applyAll operations).1.length ∧
      (queue.applyAll operations).1.tokens.take (queue.applyAll operations).1.pending =
        (queue.applyAll operations).2.foldl Event.hand (queue.tokens.take queue.pending) := by
  induction operations generalizing queue with
  | nil => exact ⟨within, rfl⟩
  | cons operation rest ih =>
      have applied := queue.apply_applied operation
      have later := ih _ (applied.pending_le within)
      rwa [applied.handed within] at later

theorem removed_applyAll_perm :
    ((queue.applyAll operations).2.flatMap Event.removed ++
        (queue.applyAll operations).1.tokens).Perm
      (queue.tokens ++ (queue.applyAll operations).2.flatMap Event.accepted) := by
  induction operations generalizing queue with
  | nil => exact .of_eq (List.append_nil _).symm
  | cons operation rest ih =>
      have here := (queue.apply_applied operation).kept
      have later := ih (queue.apply operation).1
      simp only [applyAll, List.flatMap_cons, List.append_assoc]
      refine (later.append_left _).trans ?_
      rw [← List.append_assoc, ← List.append_assoc]
      exact here.append_right _

/-- If no drain finds a peek pending, tokens leave in the order in which they entered. -/
theorem removed_applyAll_eq
    (rested : ∀ before after, operations = before ++ .drain :: after →
      (queue.applyAll before).1.pending = 0) :
    (queue.applyAll operations).2.flatMap Event.removed ++ (queue.applyAll operations).1.tokens =
      queue.tokens ++ (queue.applyAll operations).2.flatMap Event.accepted := by
  induction operations generalizing queue with
  | nil => exact (List.append_nil _).symm
  | cons operation rest ih =>
      have first : operation = .drain → queue.pending = 0 := by
        rintro rfl
        exact rested [] rest rfl
      have here := (queue.apply_applied operation).inOrder first
      have later := ih (queue.apply operation).1 fun before after same =>
        rested (operation :: before) after (by rw [same, List.cons_append])
      simp only [applyAll, List.flatMap_cons, List.append_assoc]
      rw [later, ← List.append_assoc, here, List.append_assoc]

end

/-- The queue has just been made, or read from its portable form. -/
def Fresh (queue : Queue) : Prop :=
  (∃ capacity, queue = new capacity) ∨ ∃ value, ofValue? value = some queue

theorem Fresh.pending {queue : Queue} (fresh : queue.Fresh) : queue.pending = 0 := by
  rcases fresh with ⟨capacity, rfl⟩ | ⟨value, read⟩
  · rfl
  · exact (of_ofValue? read).2

/-- The laws of a queue that went through some operations, with what came of them. -/
structure History (start : Queue) (operations : List Operation) (events : List Event)
    (queue : Queue) : Prop where
  /-- The cursor lies within the queue. -/
  within : queue.pending ≤ queue.length
  /-- A peek that succeeds reads tokens that are there. -/
  reads : ∀ count, queue.tokensAvailable count = true → queue.pending + count ≤ queue.length
  /-- A commit removes the tokens that were handed out since the last one or a cancel. -/
  commits : queue.tokens = handedOut events ++ queue.commit.1.tokens ∧
    queue.commit.2 = (handedOut events).length
  /-- The tokens that entered are those that left and those that are queued. -/
  kept : (start.tokens ++ events.flatMap Event.accepted).Perm
    (events.flatMap Event.removed ++ queue.tokens)
  /-- If no drain finds a peek pending, they are so in the same order. -/
  inOrder : (∀ before after, operations = before ++ .drain :: after →
      (start.applyAll before).1.pending = 0) →
    events.flatMap Event.removed ++ queue.tokens =
      start.tokens ++ events.flatMap Event.accepted
  capacity : queue.capacity = start.capacity
  bounded : ∀ size, queue.capacity = .bounded size → queue.length ≤ max size start.length
  /-- A write or a peek that is refused changes nothing. -/
  refusals : ∀ operation, (queue.apply operation).2.refused = true →
    (queue.apply operation).1 = queue
  /-- Only a full queue refuses a write. -/
  full : ∀ token, (queue.apply (.write token)).2.refused = true ↔
    ∃ size, queue.capacity = .bounded size ∧ size ≤ queue.length
  /-- Only a peek past the last token is refused. -/
  short : ∀ count, (queue.apply (.peek count)).2.refused = true ↔
    queue.length - queue.pending < count

/-- Every queue that is new or was read from its portable form, over its capacity or not, obeys the
laws of its history. -/
theorem applyAll_history {start : Queue} (fresh : start.Fresh) (operations : List Operation) :
    History start operations (start.applyAll operations).2 (start.applyAll operations).1 := by
  have begins : start.pending ≤ start.length := by
    rw [fresh.pending]
    exact Nat.zero_le _
  obtain ⟨within, handed⟩ := take_pending_applyAll start operations begins
  rw [fresh.pending, List.take_zero] at handed
  refine
    { within
      reads := fun count enough => ?_
      commits := ⟨?_, ?_⟩
      kept := (removed_applyAll_perm start operations).symm
      inOrder := removed_applyAll_eq start operations
      capacity := capacity_applyAll start operations
      bounded := fun size bound =>
        length_applyAll_le start operations ((capacity_applyAll start operations).symm.trans bound)
      refusals := fun operation => (apply_applied _ operation).refused
      full := refused_write_iff _
      short := refused_peek_iff _ }
  · have fits := tokensAvailable_iff.1 enough
    omega
  · rw [handedOut, ← handed]
    exact (List.take_append_drop ..).symm
  · rw [handedOut, ← handed, List.length_take]
    exact (Nat.min_eq_left within).symm

/-- A queue of one place that was read with three tokens on it.  A drain takes two of them from
behind the one that was handed out, and only when that one is committed is there room again. -/
theorem overfull_history : ∃ start events queue,
    ofValue? (toValue
      { capacity := .bounded 1, tokens := [.data (.int 5), .data .null, .data (.int 7)] }) =
        some start ∧
    start.applyAll
      [.peek 1, .write (.data (.bool true)), .drain, .cancel, .peek 1, .commit,
        .write (.data (.bool true))] = (queue, events) ∧
    events.map Event.refused = [false, true, false, false, false, false, false] ∧
    events.flatMap Event.removed = [.data .null, .data (.int 7), .data (.int 5)] ∧
    queue.tokens = [.data (.bool true)] ∧
    History start
      [.peek 1, .write (.data (.bool true)), .drain, .cancel, .peek 1, .commit,
        .write (.data (.bool true))] events queue := by
  have read : ofValue? (toValue
      { capacity := .bounded 1, tokens := [.data (.int 5), .data .null, .data (.int 7)] }) =
        some _ := ofValue?_toValue (by decide : 1 < 2 ^ 64)
  exact ⟨_, _, _, read, rfl, rfl, rfl, rfl, applyAll_history (Or.inr ⟨_, read⟩) _⟩

end Queue

end Dataflow
