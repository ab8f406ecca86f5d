import Dataflow.Proofs.Port.Passage

/-!
# Transmissions move what fits

A transmission looks both ports up again in every round, and takes a token off the source before it
delivers it.  All the same no token is lost on the way, none is moved twice, and the rounds end by
themselves: with each of them the source gets shorter, and the target has one free place less.

* `Queue.fitting` — how many of the waiting tokens fit into a queue.
* `PortStore.Rounds` — rounds that moved a token each.
* `PortStore.Passed` — the store before and after a transmission, queue by queue.
* `PortStore.transmit_moves_fitting` — what a transmission does, and when it fails.
-/

namespace Dataflow

/-! ## Free places -/

namespace Queue

variable {queue : Queue}

/-- How many of the waiting tokens fit into a queue.  One that is over its capacity has no free
place. -/
def fitting (queue : Queue) (waiting : Nat) : Nat :=
  match queue.capacity with
  | .unbounded => waiting
  | .bounded size => min waiting (size - queue.length)

theorem fitting_zero (queue : Queue) : queue.fitting 0 = 0 := by
  cases bound : queue.capacity <;> simp [fitting, bound]

theorem fitting_of_full (full : queue.slotsAvailable 1 = false) (waiting : Nat) :
    queue.fitting waiting = 0 := by
  obtain ⟨⟨size, bound⟩, places⟩ := slotsAvailable_eq_false full
  simp only [vacancy, bound] at places
  simp only [fitting, bound]
  omega

/-- Where there is room for one token, the others are as many as fit behind it. -/
theorem fitting_succ (room : queue.slotsAvailable 1 = true) (token : Token) (waiting : Nat) :
    queue.fitting (waiting + 1) = (queue.extend [token]).fitting waiting + 1 := by
  rw [slotsAvailable_iff] at room
  cases bound : queue.capacity with
  | unbounded => simp [fitting, extend, bound]
  | bounded size =>
      have free := room size bound
      rw [length] at free
      simp only [fitting, extend, bound, length, List.length_append, List.length_singleton]
      omega

end Queue

namespace PortStore

variable {store next : PortStore} {source target : ActorRef × String} {out into : Queue}

/-! ## Rounds -/

/-- Putting a queue in the place of one that is there leaves the answers for all other ports as
they were, the errors included. -/
theorem queue_setQueue_of_ne {actor other : ActorRef} {direction way : Direction}
    {port name : String} {old : Queue} (found : store.queue actor direction port = .ok old)
    (queue : Queue) (different : ¬(other = actor ∧ way = direction ∧ name = port)) :
    (store.setQueue actor direction port queue).queue other way name =
      store.queue other way name := by
  rw [setQueue_eq_mapSide found, queue_mapSide]
  split
  · next here =>
      cases store.queue other way name with
      | error e => rfl
      | ok before =>
          rw [Except.map, onlyAt, if_neg fun same => different ⟨here.1, here.2, same⟩]
  · rfl

/-- A round with a token and room for it. -/
theorem moveOne_moved (outFound : store.queue source.1 .output source.2 = .ok out)
    (intoFound : store.queue target.1 .input target.2 = .ok into) (still : out.pending = 0)
    {token : Token} {rest : List Token} (queued : out.tokens = token :: rest)
    (room : into.slotsAvailable 1 = true) :
    ∃ next, store.moveOne source target = .ok (some next) ∧
      next.queue source.1 .output source.2 = .ok { out with tokens := rest } ∧
      next.queue target.1 .input target.2 = .ok (into.extend [token]) ∧
      ∀ actor direction port, ¬(actor = source.1 ∧ direction = .output ∧ port = source.2) →
        ¬(actor = target.1 ∧ direction = .input ∧ port = target.2) →
          next.queue actor direction port = store.queue actor direction port := by
  have intoFound' : (store.setQueue source.1 .output source.2
      { out with tokens := rest }).queue target.1 .input target.2 = .ok into := by
    rw [queue_setQueue_of_ne outFound _ (by simp), intoFound]
  refine ⟨(store.setQueue source.1 .output source.2 { out with tokens := rest }).setQueue
    target.1 .input target.2 (into.extend [token]), ?_, ?_, ?_, ?_⟩
  · rw [moveOne_of_ok outFound intoFound still, queued]
    simp only [if_pos room, Queue.extend]
  · simp [queue_setQueue_eq_ok_iff]
  · simp [queue_setQueue_eq_ok_iff]
  · intro actor direction port notOut notInto
    rw [queue_setQueue_of_ne intoFound' _ notInto, queue_setQueue_of_ne outFound _ notOut]

/-- A round without a token, or without room for one. -/
theorem moveOne_ended (outFound : store.queue source.1 .output source.2 = .ok out)
    (intoFound : store.queue target.1 .input target.2 = .ok into) (still : out.pending = 0)
    (nothing : out.tokens = [] ∨ into.slotsAvailable 1 = false) :
    store.moveOne source target = .ok none := by
  rw [moveOne_of_ok outFound intoFound still]
  rcases nothing with empty | full
  · rw [empty]
  · cases out.tokens with
    | nil => rfl
    | cons token rest => simp [full]

/-- So many rounds, each of which moved a token. -/
inductive Rounds (source target : ActorRef × String) : Nat → PortStore → PortStore → Prop
  | none (store : PortStore) : Rounds source target 0 store store
  | more {count : Nat} {store next last : PortStore} :
      store.moveOne source target = .ok (some next) → Rounds source target count next last →
      Rounds source target (count + 1) store last

/-- A transmission has come to its end after so many rounds, and the oldest tokens of the source are
behind those of the target. -/
structure Passed (store : PortStore) (source target : ActorRef × String) (out into : Queue)
    (count : Nat) (last : PortStore) : Prop where
  rounds : Rounds source target count store last
  ended : last.moveOne source target = .ok none
  sent : last.queue source.1 .output source.2 = .ok { out with tokens := out.tokens.drop count }
  received : last.queue target.1 .input target.2 =
    .ok { into with tokens := into.tokens ++ out.tokens.take count }
  others : ∀ actor direction port,
    ¬(actor = source.1 ∧ direction = .output ∧ port = source.2) →
    ¬(actor = target.1 ∧ direction = .input ∧ port = target.2) →
      last.queue actor direction port = store.queue actor direction port

theorem Passed.refl (outFound : store.queue source.1 .output source.2 = .ok out)
    (intoFound : store.queue target.1 .input target.2 = .ok into)
    (ended : store.moveOne source target = .ok none) :
    Passed store source target out into 0 store where
  rounds := .none store
  ended := ended
  sent := outFound
  received := by rw [List.take_zero, List.append_nil, intoFound]
  others _ _ _ _ _ := rfl

/-! ## Runs of rounds -/

/-- Enough rounds move what fits. -/
theorem moveUpTo_passed (outFound : store.queue source.1 .output source.2 = .ok out)
    (intoFound : store.queue target.1 .input target.2 = .ok into) (still : out.pending = 0)
    {limit : Nat} (enough : out.length ≤ limit) (moved : Nat) :
    ∃ last, moveUpTo source target limit store moved =
        (last, .ok (moved + into.fitting out.length)) ∧
      Passed store source target out into (into.fitting out.length) last := by
  induction limit generalizing store out into moved with
  | zero =>
      have empty : out.tokens = [] := List.eq_nil_of_length_eq_zero (Nat.le_zero.1 enough)
      rw [Queue.length, empty, List.length_nil, Queue.fitting_zero]
      exact ⟨store, rfl,
        .refl outFound intoFound (moveOne_ended outFound intoFound still (.inl empty))⟩
  | succ limit ih =>
      by_cases nothing : out.tokens = [] ∨ into.slotsAvailable 1 = false
      · have ended := moveOne_ended outFound intoFound still nothing
        have none : into.fitting out.length = 0 := by
          rcases nothing with empty | full
          · rw [Queue.length, empty, List.length_nil, Queue.fitting_zero]
          · exact Queue.fitting_of_full full _
        rw [none, moveUpTo, ended]
        exact ⟨store, rfl, .refl outFound intoFound ended⟩
      · rw [not_or, Bool.not_eq_false] at nothing
        obtain ⟨token, rest, queued⟩ := List.exists_cons_of_ne_nil nothing.1
        obtain ⟨next, round, outFound', intoFound', others⟩ :=
          moveOne_moved outFound intoFound still queued nothing.2
        have shorter : out.length = rest.length + 1 := by
          rw [Queue.length, queued, List.length_cons]
        -- the next rounds start with one token fewer and one free place fewer
        rw [shorter] at enough
        obtain ⟨last, ran, passed⟩ :=
          ih outFound' intoFound' still (Nat.le_of_succ_le_succ enough) (moved + 1)
        have count : into.fitting out.length = 1 + (into.extend [token]).fitting rest.length := by
          rw [shorter, Queue.fitting_succ nothing.2 token, Nat.add_comm]
        refine ⟨last, ?_, ?_⟩
        · rw [moveUpTo, round, count, ← Nat.add_assoc]
          exact ran
        · rw [count, Nat.add_comm]
          exact
            { rounds := .more round passed.rounds
              ended := passed.ended
              sent := by rw [queued, List.drop_succ_cons]; exact passed.sent
              received := by
                rw [queued, List.take_succ_cons, List.append_cons]
                exact passed.received
              others := fun actor direction port notOut notInto =>
                (passed.others actor direction port notOut notInto).trans
                  (others actor direction port notOut notInto) }

/-! ## Transmissions -/

/-- A transmission moves what fits. -/
theorem transmit_passed (outFound : store.queue source.1 .output source.2 = .ok out)
    (intoFound : store.queue target.1 .input target.2 = .ok into) (still : out.pending = 0) :
    ∃ last, (store.transmit source target).value = (last, .ok (into.fitting out.length)) ∧
      Passed store source target out into (into.fitting out.length) last := by
  obtain ⟨last, ran, passed⟩ := moveUpTo_passed outFound intoFound still (Nat.le_refl _) 0
  rw [Nat.zero_add] at ran
  refine ⟨last, ?_, passed⟩
  simp only [transmit, outFound, intoFound, ran]
  rfl

/-- After a transmission there is nothing to transmit. -/
theorem Passed.transmit_again {count : Nat} {last : PortStore}
    (passed : Passed store source target out into count last) :
    (last.transmit source target).value = (last, .ok 0) := by
  have again (limit : Nat) : moveUpTo source target limit last 0 = (last, .ok 0) := by
    cases limit with
    | zero => rfl
    | succ limit => rw [moveUpTo, passed.ended]
  simp only [transmit, passed.sent, passed.received, again]
  rfl

/-- A transmission fails if and only if one of its ports does not exist, the target's being looked
up first. -/
theorem transmit_error_iff (still : ∀ out, store.queue source.1 .output source.2 = .ok out →
    out.pending = 0) {e : PortError} :
    (store.transmit source target).value.2 = .error e ↔
      store.queue target.1 .input target.2 = .error e ∨
        (∃ into, store.queue target.1 .input target.2 = .ok into) ∧
          store.queue source.1 .output source.2 = .error e := by
  cases intoFound : store.queue target.1 .input target.2 with
  | error e' => simp [transmit, intoFound]
  | ok into =>
      cases outFound : store.queue source.1 .output source.2 with
      | error e' => simp [transmit, intoFound, outFound]
      | ok out =>
          obtain ⟨last, ran, -⟩ := transmit_passed outFound intoFound (still out outFound)
          simp [ran]

/-- A transmission that fails has moved nothing. -/
theorem transmit_failed (still : ∀ out, store.queue source.1 .output source.2 = .ok out →
    out.pending = 0) {e : PortError}
    (failed : (store.transmit source target).value.2 = .error e) :
    (store.transmit source target).value.1 = store := by
  rcases (transmit_error_iff still).1 failed with missing | ⟨⟨into, intoFound⟩, missing⟩
  · simp [transmit, missing]
  · simp [transmit, intoFound, missing]

/-- In every store that comes of an empty one, and between any two ports: a transmission fails if
and only if one of them does not exist, and then changes nothing.  Otherwise its rounds come to an
end, it has moved the oldest tokens of the source, as many as there are or as fit into the target,
and has changed nothing else; and a second transmission moves none. -/
theorem transmit_moves_fitting (steps : List Step) (source target : ActorRef × String) :
    let store := ({} : PortStore).after steps
    (∀ e, (store.transmit source target).value.2 = .error e ↔
      store.queue target.1 .input target.2 = .error e ∨
        (∃ into, store.queue target.1 .input target.2 = .ok into) ∧
          store.queue source.1 .output source.2 = .error e) ∧
    (∀ e, (store.transmit source target).value.2 = .error e →
      (store.transmit source target).value.1 = store) ∧
    ∀ out into, store.queue source.1 .output source.2 = .ok out →
      store.queue target.1 .input target.2 = .ok into →
      ∃ last, (store.transmit source target).value = (last, .ok (into.fitting out.length)) ∧
        Passed store source target out into (into.fitting out.length) last ∧
        (last.transmit source target).value = (last, .ok 0) := by
  intro store
  have sound : store.Sound (lengthsOnEntry steps) := (after_orderly steps).toSound
  have still (out : Queue) (found : store.queue source.1 .output source.2 = .ok out) :
      out.pending = 0 := (sound.queues found).still rfl
  refine ⟨fun e => transmit_error_iff still, fun e => transmit_failed still, ?_⟩
  intro out into outFound intoFound
  obtain ⟨last, ran, passed⟩ := transmit_passed outFound intoFound (still out outFound)
  exact ⟨last, ran, passed, passed.transmit_again⟩

/-- An actor sends itself a number and an exception token; the third one finds no free place.  The
token that it has peeked at stays handed out. -/
theorem loop_moves_fitting :
    let steps : List Step := [
      .addPort 0 ⟨"a"⟩ .output "out" (some .unbounded), .write ⟨"a"⟩ "out" (.data (.int 1)),
      .write ⟨"a"⟩ "out" (.exception "lost"), .write ⟨"a"⟩ "out" (.data (.int 3)),
      .addPort 0 ⟨"a"⟩ .input "in" (some (.bounded 3)), .deliver ⟨"a"⟩ "in" (.data (.int 0)),
      .peek ⟨"a"⟩ "in" 1]
    ∃ last, ((({} : PortStore).after steps).transmit (⟨"a"⟩, "out") (⟨"a"⟩, "in")).value =
        (last, .ok 2) ∧
      last.queue ⟨"a"⟩ .output "out" =
        .ok { capacity := .unbounded, tokens := [.data (.int 3)] } ∧
      last.queue ⟨"a"⟩ .input "in" =
        .ok { capacity := .bounded 3
              tokens := [.data (.int 0), .data (.int 1), .exception "lost"], pending := 1 } ∧
      (last.transmit (⟨"a"⟩, "out") (⟨"a"⟩, "in")).value = (last, .ok 0) := by
  intro steps
  obtain ⟨-, -, moves⟩ := transmit_moves_fitting steps (⟨"a"⟩, "out") (⟨"a"⟩, "in")
  obtain ⟨last, ran, passed, again⟩ := moves _ _ rfl rfl
  exact ⟨last, ran, passed.sent, passed.received, again⟩

end PortStore

end Dataflow
