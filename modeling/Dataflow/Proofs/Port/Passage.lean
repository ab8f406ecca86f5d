import Dataflow.Proofs.Port.Invariant
import Dataflow.Proofs.Port.Promise

/-!
# What a host moves

A host puts tokens into in-ports, takes them off out-ports and passes them on from one actor to
another.  What it puts in comes last, what it takes off or passes on are the oldest tokens, and no
other queue is touched.

* `PortStore.deliver_accepted`, `PortStore.deliver_refused`, `PortStore.drain_answered`,
  `PortStore.drain_failed` — the store after a delivery and after a drain.
* `PortStore.Transmitted` — so many tokens were passed on, as many as there was room for.
* `PortStore.transmit_transmitted` — a transmission between ports that exist succeeds.
-/

namespace Dataflow

namespace PortStore

/-! ## Deliveries and drains -/

section

variable {store next : PortStore} {actor other : ActorRef} {direction : Direction} {port : String}
  {token : Token}

/-- A change that leaves cursors alone hands out nothing. -/
theorem Unpeeked.mapSide {f : String → Queue → Queue} (clean : store.Unpeeked actor)
    (kept : ∀ port queue, (f port queue).pending = queue.pending) :
    (store.mapSide other direction f).Unpeeked actor := by
  intro port queue found
  obtain ⟨old, before, rfl⟩ := exists_of_queue_mapSide found
  split
  · rw [kept, clean port old before]
  · exact clean port old before

/-- A token that is accepted is behind the others afterwards. -/
theorem deliver_accepted (h : store.deliver actor port token = (next, .ok ())) :
    next = store.mapSide actor .input fun name queue =>
      queue.extend (if port = name then [token] else []) := by
  cases found : store.queue actor .input port with
  | error e =>
      rw [deliver, onQueue_of_error found] at h
      cases h
  | ok queue =>
      by_cases room : queue.slotsAvailable 1 = true
      · rw [deliver, onQueue_of_ok found, append, Queue.write?, if_pos room] at h
        cases h
        refine mapSide_congr_at found ?_ fun name other different => ?_
        · simp [onlyAt, Queue.extend]
        · simp [onlyAt, different, Ne.symm different]
      · rw [deliver, onQueue_of_ok found, append, Queue.write?, if_neg room] at h
        cases h

theorem tokensOn_deliver (h : store.deliver actor port token = (next, .ok ())) :
    next.tokensOn actor .input port = store.tokensOn actor .input port ++ [token] := by
  cases found : store.queue actor .input port with
  | error e =>
      rw [deliver, onQueue_of_error found] at h
      cases h
  | ok queue =>
      rw [deliver_accepted h, tokensOn_of_ok (queue_mapSide_self _ found), tokensOn_of_ok found,
        if_pos rfl]
      rfl

/-- A token that is not accepted leaves no trace. -/
theorem deliver_refused {e : PortError} (h : store.deliver actor port token = (next, .error e)) :
    next = store := by
  have same : (store.deliver actor port token).1 = store :=
    onQueue_refused (fun _ _ => append_refused) (congrArg Prod.snd h)
  rw [← same, h]

theorem tokensOn_drain_input (store : PortStore) (actor : ActorRef) (port name : String) :
    (store.drain actor port).1.tokensOn actor .input name =
      store.tokensOn actor .input name := by
  rw [drain, fst_onQueue, tokensOn, queue_mapSide_of_ne _ _ (by simp), tokensOn]

/-- A drain takes everything off an out-port from which nothing is handed out. -/
theorem drain_answered {tokens : List Token}
    (still : ∀ queue, store.queue actor .output port = .ok queue → queue.pending = 0)
    (h : store.drain actor port = (next, .ok tokens)) :
    store.tokensOn actor .output port = tokens ∧
      next = store.mapSide actor .output fun name queue =>
        { queue with tokens := if port = name then [] else queue.tokens } := by
  cases found : store.queue actor .output port with
  | error e =>
      rw [drain, onQueue_of_error found] at h
      cases h
  | ok queue =>
      have all : queue.drain = ({ queue with tokens := [] }, queue.tokens) := by
        simp [Queue.drain, still queue found]
      rw [drain, onQueue_of_ok found, all] at h
      cases h
      refine ⟨tokensOn_of_ok found, mapSide_congr_at found ?_ fun name other different => ?_⟩
      · simp [onlyAt]
      · simp [onlyAt, different, Ne.symm different]

theorem drain_failed {e : PortError} (h : store.drain actor port = (next, .error e)) :
    next = store := by
  have same : (store.drain actor port).1 = store :=
    onQueue_refused (fun _ _ failed => by cases failed) (congrArg Prod.snd h)
  rw [← same, h]

end

/-! ## Transmissions -/

/-- The oldest `count` tokens of the source are at the end of the target now. -/
structure Transmitted (store : PortStore) (source target : ActorRef × String) (out into : Queue)
    (count : Nat) (next : PortStore) : Prop where
  enough : count ≤ out.length
  sent : next.queue source.1 .output source.2 = .ok { out with tokens := out.tokens.drop count }
  received : next.queue target.1 .input target.2 = .ok (into.extend (out.tokens.take count))
  others : ∀ actor direction port queue,
    ¬(actor = source.1 ∧ direction = .output ∧ port = source.2) →
    ¬(actor = target.1 ∧ direction = .input ∧ port = target.2) →
      (next.queue actor direction port = .ok queue ↔
        store.queue actor direction port = .ok queue)

variable {store next last : PortStore} {source target : ActorRef × String} {out into : Queue}

theorem Transmitted.refl (outFound : store.queue source.1 .output source.2 = .ok out)
    (intoFound : store.queue target.1 .input target.2 = .ok into) :
    Transmitted store source target out into 0 store where
  enough := Nat.zero_le _
  sent := outFound
  received := by rw [intoFound, List.take_zero, Queue.extend_nil]
  others _ _ _ _ _ _ := Iff.rfl

/-- One token, and then some more. -/
theorem Transmitted.cons {token : Token} {rest : List Token} {count : Nat}
    (queued : out.tokens = token :: rest)
    (others : ∀ actor direction port queue,
      ¬(actor = source.1 ∧ direction = .output ∧ port = source.2) →
      ¬(actor = target.1 ∧ direction = .input ∧ port = target.2) →
        (next.queue actor direction port = .ok queue ↔
          store.queue actor direction port = .ok queue))
    (h : Transmitted next source target { out with tokens := rest } (into.extend [token]) count
      last) :
    Transmitted store source target out into (count + 1) last where
  enough := by
    have enough := h.enough
    rw [Queue.length] at enough ⊢
    rw [queued, List.length_cons]
    exact Nat.succ_le_succ enough
  sent := by
    rw [h.sent, queued, List.drop_succ_cons]
  received := by
    rw [h.received, Queue.extend_extend, queued, List.take_succ_cons, List.singleton_append]
  others actor direction port queue notOut notInto :=
    (h.others actor direction port queue notOut notInto).trans
      (others actor direction port queue notOut notInto)

/-- A transmission hands out nothing. -/
theorem Transmitted.unpeeked {actor : ActorRef} {count : Nat}
    (h : Transmitted store source target out into count next)
    (intoFound : store.queue target.1 .input target.2 = .ok into) (clean : store.Unpeeked actor) :
    next.Unpeeked actor := by
  intro port queue found
  by_cases here : actor = target.1 ∧ port = target.2
  · obtain ⟨rfl, rfl⟩ := here
    cases h.received.symm.trans found
    exact clean _ into intoFound
  · refine clean port queue ((h.others actor .input port queue (by simp) ?_).1 found)
    simpa using here

/-- Rounds of a transmission, from an out-port without a pending peek. -/
theorem moveUpTo_transmitted (outFound : store.queue source.1 .output source.2 = .ok out)
    (intoFound : store.queue target.1 .input target.2 = .ok into) (still : out.pending = 0)
    (limit moved : Nat) :
    ∃ count next, moveUpTo source target limit store moved = (next, .ok (moved + count)) ∧
      Transmitted store source target out into count next := by
  induction limit generalizing store out into moved with
  | zero => exact ⟨0, store, rfl, .refl outFound intoFound⟩
  | succ limit ih =>
      rw [moveUpTo]
      have round := moveOne_round outFound intoFound still
      cases same : store.moveOne source target with
      | error e => rw [same] at round; cases round
      | ok result =>
          rw [same] at round
          cases round with
          | ended => exact ⟨0, store, rfl, .refl outFound intoFound⟩
          | moved queued _ outFound' intoFound' others =>
              obtain ⟨count, last, ran, transmitted⟩ := ih outFound' intoFound' still (moved + 1)
              refine ⟨count + 1, last, ?_, .cons queued others transmitted⟩
              rw [Nat.add_comm count 1, ← Nat.add_assoc]
              exact ran

/-- A transmission between two ports succeeds, and answers how many tokens it has moved. -/
theorem transmit_transmitted (source target : ActorRef × String)
    (outFound : store.queue source.1 .output source.2 = .ok out)
    (intoFound : store.queue target.1 .input target.2 = .ok into) (still : out.pending = 0) :
    ∃ count next, (store.transmit source target).value = (next, .ok count) ∧
      Transmitted store source target out into count next := by
  obtain ⟨count, next, ran, transmitted⟩ :=
    moveUpTo_transmitted outFound intoFound still out.length 0
  refine ⟨count, next, ?_, transmitted⟩
  rw [Nat.zero_add] at ran
  simp only [transmit, outFound, intoFound, ran]
  rfl

end PortStore

end Dataflow
