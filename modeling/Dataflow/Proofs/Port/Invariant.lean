import Dataflow.Proofs.Firing.Access
import Dataflow.Proofs.Port.Run
import Dataflow.Proofs.Queue.History

/-!
# The invariant of a store

Whatever is done to a store, nothing is ever handed out of an out-port, the cursor of an in-port
lies within its queue, and a bounded queue grows no further than its capacity; only a queue that
came into the store with more tokens may hold more.  Peeks may be pending when an actor is fired,
and the port sets that are attached may come from anywhere, with any cursors and any number of
tokens.

* `PortStore.Sound` — the invariant, relative to the lengths with which queues came into the store.
* `PortStore.Sound.mapSide`, `PortStore.Sound.setQueue` — the two ways in which queues change.
  Every operation is one of them, so that it keeps the invariant if it keeps each queue sound.
* `PortStore.Sound.perform`, `PortStore.Sound.after` — one step, and a whole run.
* `PortStore.after_orderly` — what a host gets from the invariant: drains that leave nothing
  behind, and transmissions that move one token with every round until nothing can be moved.
-/

namespace Dataflow

/-! ## Queues -/

/-- A queue that is as it should be in its place; `entry` is its length when it came there. -/
structure Queue.Sound (direction : Direction) (entry : Nat) (queue : Queue) : Prop where
  /-- Nothing is handed out of an out-port. -/
  still : direction = .output → queue.pending = 0
  /-- The cursor lies within the queue. -/
  within : queue.pending ≤ queue.length
  /-- A bounded queue has not grown beyond its capacity. -/
  bounded : ∀ size, queue.capacity = .bounded size → queue.length ≤ max size entry

namespace Queue

variable {direction : Direction} {entry : Nat} {queue : Queue}

theorem sound_new (direction : Direction) (entry : Nat) (capacity : Capacity) :
    (new capacity).Sound direction entry where
  still _ := rfl
  within := Nat.zero_le _
  bounded _ _ := Nat.zero_le _

theorem sound_cancel (direction : Direction) (queue : Queue) :
    queue.cancel.Sound direction queue.length where
  still _ := rfl
  within := Nat.zero_le _
  bounded _ _ := Nat.le_max_right ..

/-- Every operation keeps a queue sound, except that nothing may be handed out of an out-port. -/
theorem Sound.apply (h : queue.Sound direction entry) (operation : Operation)
    (still : direction = .output → (queue.apply operation).1.pending = 0) :
    (queue.apply operation).1.Sound direction entry where
  still := still
  within := (queue.apply_applied operation).pending_le h.within
  bounded size bound := by
    have applied := queue.apply_applied operation
    have before := applied.capacity.symm.trans bound
    exact Nat.le_trans (applied.length_le before)
      (Nat.max_le.2 ⟨Nat.le_max_left .., h.bounded size before⟩)

theorem fst_apply_peek (queue : Queue) (count : Nat) :
    (queue.apply (.peek count)).1 = (queue.peek count).1 := by
  rw [apply]
  split <;> rename_i same <;> rw [same]

theorem Sound.peek (h : queue.Sound .input entry) (count : Nat) :
    (queue.peek count).1.Sound .input entry := by
  rw [← fst_apply_peek]
  exact h.apply _ nofun

theorem Sound.commit (h : queue.Sound direction entry) :
    queue.commit.1.Sound direction entry :=
  h.apply .commit fun _ => rfl

theorem Sound.cancel (h : queue.Sound direction entry) : queue.cancel.Sound direction entry :=
  h.apply .cancel fun _ => rfl

theorem Sound.drain (h : queue.Sound direction entry) : queue.drain.1.Sound direction entry :=
  h.apply .drain h.still

/-- A token that there is room for. -/
theorem Sound.push (h : queue.Sound direction entry) (room : queue.slotsAvailable 1 = true)
    (token : Token) :
    ({ queue with tokens := queue.tokens ++ [token] } : Queue).Sound direction entry := by
  have written : (queue.apply (.write token)).1 =
      { queue with tokens := queue.tokens ++ [token] } := by
    simp [Queue.apply, write?, room]
  rw [← written]
  refine h.apply _ fun output => ?_
  rw [written]
  exact h.still output

/-- The oldest token off an out-port. -/
theorem Sound.tail (h : queue.Sound .output entry) {token : Token} {rest : List Token}
    (queued : queue.tokens = token :: rest) :
    ({ queue with tokens := rest } : Queue).Sound .output entry where
  still := h.still
  within := by
    show queue.pending ≤ _
    rw [h.still rfl]
    exact Nat.zero_le _
  bounded size bound := by
    have before := h.bounded size bound
    rw [Queue.length, queued, List.length_cons] at before
    exact Nat.le_trans (Nat.le_succ _) before

theorem Sound.append (h : queue.Sound direction entry) (actor : ActorRef) (port : String)
    (token : Token) : (PortStore.append actor port token queue).1.Sound direction entry := by
  rw [PortStore.fst_append]
  split
  · rename_i room
    exact h.push room token
  · exact h

end Queue

namespace PortStore

/-- A length for every port. -/
abbrev Lengths := ActorRef → Direction → String → Nat

/-- The lengths with which queues came into a store, after a step: those of the queues that are
attached are kept, an added port comes with nothing. -/
def Step.entry (step : Step) (before : Lengths) : Lengths :=
  match step with
  | .attach actor ports => fun other direction port =>
    if other = actor then (((ports.side direction).get? port).map Queue.length).getD 0
    else before other direction port
  | .detach actor => fun other direction port =>
    if other = actor then 0 else before other direction port
  | _ => before

/-- The invariant of a store; `entry` gives the lengths with which queues came into it. -/
structure Sound (entry : Lengths) (store : PortStore) : Prop where
  queues : ∀ {actor direction port queue}, store.queue actor direction port = .ok queue →
    queue.Sound direction (entry actor direction port)
  /-- A port that is not there has brought nothing. -/
  absent : ∀ {actor direction port}, (∀ queue, store.queue actor direction port ≠ .ok queue) →
    entry actor direction port = 0

variable {entry : Lengths} {store : PortStore} {actor : ActorRef} {direction : Direction}
  {port : String} {queue : Queue}

/-! ## Changes of queues -/

/-- The invariant is kept if every queue that changes stays sound. -/
theorem Sound.mapSide (h : store.Sound entry) {f : String → Queue → Queue}
    (kept : ∀ port queue, queue.Sound direction (entry actor direction port) →
      (f port queue).Sound direction (entry actor direction port)) :
    (store.mapSide actor direction f).Sound entry where
  queues {other way name queue} found := by
    rw [queue_mapSide] at found
    split at found
    · rename_i here
      obtain ⟨rfl, rfl⟩ := here
      cases before : store.queue other way name with
      | error e => rw [before] at found; cases found
      | ok old =>
          rw [before] at found
          cases found
          exact kept name old (h.queues before)
    · exact h.queues found
  absent {other way name} missing := by
    refine h.absent fun queue found => ?_
    by_cases here : other = actor ∧ way = direction
    · obtain ⟨rfl, rfl⟩ := here
      exact missing _ (queue_mapSide_self f found)
    · exact missing queue ((queue_mapSide_of_ne f name here).trans found)

/-- The invariant is kept if what is put in the place of a queue is sound. -/
theorem Sound.setQueue (h : store.Sound entry)
    (sound : queue.Sound direction (entry actor direction port)) :
    (store.setQueue actor direction port queue).Sound entry where
  queues {other way name other'} found := by
    rw [queue_setQueue_eq_ok_iff] at found
    split at found
    · rename_i here
      obtain ⟨rfl, rfl, rfl⟩ := here
      exact found ▸ sound
    · exact h.queues found
  absent {other way name} missing := by
    refine h.absent fun other' found => ?_
    by_cases here : other = actor ∧ way = direction ∧ name = port
    · exact missing queue (queue_setQueue_eq_ok_iff.2 (by rw [if_pos here]))
    · exact missing other' (queue_setQueue_eq_ok_iff.2 (by rw [if_neg here]; exact found))

theorem Sound.onQueue {α : Type} (h : store.Sound entry)
    {work : Queue → Queue × Except PortError α}
    (kept : ∀ queue, queue.Sound direction (entry actor direction port) →
      (work queue).1.Sound direction (entry actor direction port)) :
    (store.onQueue actor direction port work).1.Sound entry := by
  rw [fst_onQueue]
  refine h.mapSide fun name queue sound => ?_
  by_cases here : name = port
  · subst here
    rw [onlyAt, if_pos rfl]
    exact kept queue sound
  · rw [onlyAt, if_neg here]
    exact sound

/-! ## Operations of the engine -/

theorem Sound.peek (h : store.Sound entry) (count : Nat) :
    (store.peek actor port count).1.Sound entry := by
  refine h.onQueue fun queue sound => ?_
  have after := sound.peek count
  generalize queue.peek count = result at after ⊢
  obtain ⟨next, _ | tokens⟩ := result <;> exact after

theorem Sound.commit (h : store.Sound entry) (names : List String) :
    (store.commit actor names).1.Sound entry := by
  rcases store.fst_commit actor names with same | same
  · rwa [same]
  · rw [same]
    refine h.mapSide fun name queue sound => ?_
    split
    · exact sound.commit
    · exact sound

theorem Sound.cancel (h : store.Sound entry) (names : List String) :
    (store.cancel actor names).1.Sound entry := by
  rw [fst_cancel]
  refine h.mapSide fun name queue sound => ?_
  split
  · exact sound.cancel
  · exact sound

theorem Sound.write (h : store.Sound entry) (token : Token) :
    (store.write actor port token).1.Sound entry :=
  h.onQueue fun _ sound => sound.append actor port token

/-- The engine cannot break the invariant. -/
theorem keeps_sound (actor : ActorRef) (entry : Lengths) :
    PortAccess.Keeps actor (Sound entry) where
  tokensAvailable h _ _ := h
  slotsAvailable h _ _ := h
  peek h _ count := h.peek count
  commit h names := h.commit names
  cancel h names := h.cancel names
  write h _ token := h.write token

/-! ## Operations of the host -/

theorem Sound.deliver (h : store.Sound entry) (token : Token) :
    (store.deliver actor port token).1.Sound entry :=
  h.onQueue fun _ sound => sound.append actor port token

theorem Sound.drain (h : store.Sound entry) : (store.drain actor port).1.Sound entry :=
  h.onQueue fun _ sound => sound.drain

theorem Sound.addPort (h : store.Sound entry) (size : Nat) (capacity : Option Capacity) :
    (store.addPort size actor direction port capacity).value.1.Sound entry := by
  rcases store.fst_addPort size actor direction port capacity with same | ⟨-, given, added⟩
  · rwa [same]
  · rw [added]
    exact h.setQueue (Queue.sound_new ..)

theorem Sound.detach (h : store.Sound entry) (actor : ActorRef) :
    (store.detach actor).1.Sound ((Step.detach actor).entry entry) where
  queues {other way name queue} found := by
    obtain ⟨different, before⟩ := queue_detach_eq_ok_iff.1 found
    simp only [Step.entry, if_neg different]
    exact h.queues before
  absent {other way name} missing := by
    simp only [Step.entry]
    split
    · rfl
    · rename_i different
      exact h.absent fun queue before =>
        missing queue (queue_detach_eq_ok_iff.2 ⟨different, before⟩)

theorem Sound.attach (h : store.Sound entry) (actor : ActorRef) (ports : PortSet) :
    (store.attach actor ports).Sound ((Step.attach actor ports).entry entry) where
  queues {other way name queue} found := by
    rw [queue_attach_eq_ok_iff] at found
    simp only [Step.entry]
    split at found
    · rename_i same
      obtain ⟨brought, there, rfl⟩ := found
      rw [if_pos same, there]
      exact Queue.sound_cancel way brought
    · rename_i different
      rw [if_neg different]
      exact h.queues found
  absent {other way name} missing := by
    simp only [Step.entry]
    by_cases same : other = actor
    · rw [if_pos same]
      cases there : (ports.side way).get? name with
      | none => rfl
      | some brought =>
          refine absurd (queue_attach_eq_ok_iff.2 ?_) (missing brought.cancel)
          rw [if_pos same]
          exact ⟨brought, there, rfl⟩
    · rw [if_neg same]
      refine h.absent fun queue before => missing queue (queue_attach_eq_ok_iff.2 ?_)
      rw [if_neg same]
      exact before

/-! ## Transmissions -/

/-- A round of a transmission from one queue to another: it moves the oldest token and touches no
other queue, or there is no token or no room, and then it is the last. -/
inductive Round (store : PortStore) (source target : ActorRef × String) (out into : Queue) :
    Except PortError (Option PortStore) → Prop
  | moved {token : Token} {rest : List Token} {next : PortStore} :
      out.tokens = token :: rest → into.slotsAvailable 1 = true →
      next.queue source.1 .output source.2 = .ok { out with tokens := rest } →
      next.queue target.1 .input target.2 = .ok { into with tokens := into.tokens ++ [token] } →
      (∀ actor direction port queue, ¬(actor = source.1 ∧ direction = .output ∧ port = source.2) →
        ¬(actor = target.1 ∧ direction = .input ∧ port = target.2) →
          (next.queue actor direction port = .ok queue ↔
            store.queue actor direction port = .ok queue)) →
      Round store source target out into (.ok (some next))
  | ended : out.tokens = [] ∨ into.slotsAvailable 1 = false →
      Round store source target out into (.ok none)

theorem moveOne_round {source target : ActorRef × String} {out into : Queue}
    (outFound : store.queue source.1 .output source.2 = .ok out)
    (intoFound : store.queue target.1 .input target.2 = .ok into) (still : out.pending = 0) :
    Round store source target out into (store.moveOne source target) := by
  rw [moveOne_of_ok outFound intoFound still]
  cases queued : out.tokens with
  | nil => exact .ended (Or.inl queued)
  | cons token rest =>
      by_cases room : into.slotsAvailable 1 = true
      · simp only [if_pos room]
        refine .moved queued room ?_ ?_ fun actor direction port queue notOut notInto => ?_
        · simp [queue_setQueue_eq_ok_iff]
        · simp [queue_setQueue_eq_ok_iff]
        · rw [queue_setQueue_eq_ok_iff, if_neg notInto, queue_setQueue_eq_ok_iff, if_neg notOut]
      · simp only [if_neg room]
        exact .ended (Or.inr (Bool.eq_false_iff.2 room))

theorem Sound.moveOne_round (h : store.Sound entry) {source target : ActorRef × String}
    {out into : Queue} (outFound : store.queue source.1 .output source.2 = .ok out)
    (intoFound : store.queue target.1 .input target.2 = .ok into) :
    Round store source target out into (store.moveOne source target) :=
  PortStore.moveOne_round outFound intoFound ((h.queues outFound).still rfl)

theorem Sound.moveOne (h : store.Sound entry) {source target : ActorRef × String}
    {next : PortStore} (moved : store.moveOne source target = .ok (some next)) :
    next.Sound entry := by
  obtain ⟨out, into, outFound, intoFound⟩ := exists_queues_of_moveOne moved
  rw [moveOne_of_ok outFound intoFound ((h.queues outFound).still rfl)] at moved
  cases queued : out.tokens with
  | nil => simp [queued] at moved
  | cons token rest =>
      by_cases room : into.slotsAvailable 1 = true
      · simp only [queued, if_pos room, Except.ok.injEq, Option.some.injEq] at moved
        have taken := h.setQueue ((h.queues outFound).tail queued)
        exact moved ▸ taken.setQueue ((h.queues intoFound).push room token)
      · simp [queued, room] at moved

/-- Every round keeps the invariant, so that the next one finds it again. -/
theorem Sound.moveUpTo (h : store.Sound entry) (source target : ActorRef × String)
    (limit moved : Nat) : (moveUpTo source target limit store moved).1.Sound entry := by
  induction limit generalizing store moved with
  | zero => exact h
  | succ limit ih =>
      rw [PortStore.moveUpTo]
      split
      · exact h
      · exact h
      · rename_i next round
        exact ih (h.moveOne round) _

theorem Sound.transmit (h : store.Sound entry) (source target : ActorRef × String) :
    (store.transmit source target).value.1.Sound entry := by
  rw [PortStore.transmit]
  split
  · exact h
  · exact h
  · rename_i _ out _ _
    have moved := h.moveUpTo source target out.length 0
    split <;> rename_i same <;> rw [same] at moved <;> exact moved

/-- So many rounds as there are tokens to move are enough: the last one finds nothing to move. -/
theorem Sound.moveUpTo_ended (h : store.Sound entry) {source target : ActorRef × String}
    {out into : Queue} (outFound : store.queue source.1 .output source.2 = .ok out)
    (intoFound : store.queue target.1 .input target.2 = .ok into) {limit : Nat}
    (enough : out.length ≤ limit) (moved : Nat) :
    ∃ last total, PortStore.moveUpTo source target limit store moved = (last, .ok total) ∧
      last.moveOne source target = .ok none := by
  induction limit generalizing store out into moved with
  | zero =>
      refine ⟨store, moved, rfl, ?_⟩
      have nothing : out.tokens = [] := List.eq_nil_of_length_eq_zero (Nat.le_zero.1 enough)
      rw [moveOne_of_ok outFound intoFound ((h.queues outFound).still rfl), nothing]
  | succ limit ih =>
      rw [PortStore.moveUpTo]
      have round := h.moveOne_round outFound intoFound
      cases same : store.moveOne source target with
      | error e => rw [same] at round; cases round
      | ok result =>
          rw [same] at round
          cases round with
          | ended => exact ⟨store, moved, rfl, same⟩
          | moved queued _ outFound' intoFound' =>
              -- One token fewer is left to be moved, so one round fewer is enough.
              refine ih (h.moveOne same) outFound' intoFound' ?_ (moved + 1)
              rw [Queue.length, queued, List.length_cons] at enough
              exact Nat.le_of_succ_le_succ enough

theorem Sound.transmit_ended (h : store.Sound entry) {source target : ActorRef × String}
    {out into : Queue} (outFound : store.queue source.1 .output source.2 = .ok out)
    (intoFound : store.queue target.1 .input target.2 = .ok into) :
    ∃ last total, (store.transmit source target).value = (last, .ok total) ∧
      last.moveOne source target = .ok none := by
  obtain ⟨last, total, ran, nothing⟩ := h.moveUpTo_ended outFound intoFound (Nat.le_refl _) 0
  refine ⟨last, total, ?_, nothing⟩
  simp only [PortStore.transmit, outFound, intoFound, ran]
  rfl

/-! ## Runs -/

/-- Every step keeps the invariant. -/
theorem Sound.perform (h : store.Sound entry) (step : Step) :
    (store.perform step).Sound (step.entry entry) := by
  cases step with
  | addPort size actor direction port capacity => exact h.addPort size capacity
  | deliver actor port token => exact h.deliver token
  | drain actor port => exact h.drain
  | transmit source target => exact h.transmit source target
  | detach actor => exact h.detach actor
  | attach actor ports => exact h.attach actor ports
  | tokensAvailable actor port count => exact h
  | slotsAvailable actor port count => exact h
  | peek actor port count => exact h.peek count
  | commit actor names => exact h.commit names
  | cancel actor names => exact h.cancel names
  | write actor port token => exact h.write token
  | fire behaviour limit state =>
      rw [PortStore.perform]
      split
      · exact h
      · rename_i ran
        exact Behaviour.fire_safe (keeps_sound _ _) h ran

theorem Sound.after (h : store.Sound entry) (steps : List Step) :
    (store.after steps).Sound (steps.foldl (fun entry step => step.entry entry) entry) := by
  induction steps generalizing store entry with
  | nil => exact h
  | cons step rest ih => exact ih (h.perform step)

/-- The lengths with which the queues came into a store that was empty before these steps. -/
def lengthsOnEntry (steps : List Step) : Lengths :=
  steps.foldl (fun entry step => step.entry entry) fun _ _ _ => 0

/-- The invariant, and what a host gets from it. -/
structure Orderly (entry : Lengths) (store : PortStore) : Prop extends Sound entry store where
  /-- A drain returns the whole queue and leaves it empty. -/
  drains : ∀ actor port queue, store.queue actor .output port = .ok queue →
    (store.drain actor port).2 = .ok queue.tokens ∧
      (store.drain actor port).1.queue actor .output port = .ok { queue with tokens := [] }
  /-- Whichever round a transmission has come to, the next one moves one token or is the last. -/
  rounds : ∀ source target rounds out into,
    let reached := (moveUpTo source target rounds store 0).1
    reached.queue source.1 .output source.2 = .ok out →
    reached.queue target.1 .input target.2 = .ok into →
      Round reached source target out into (reached.moveOne source target)
  /-- A transmission comes to its end only when nothing can be moved any more. -/
  ends : ∀ source target out into, store.queue source.1 .output source.2 = .ok out →
    store.queue target.1 .input target.2 = .ok into →
      ∃ last total, (store.transmit source target).value = (last, .ok total) ∧
        last.moveOne source target = .ok none

theorem Sound.drains (h : store.Sound entry)
    (found : store.queue actor .output port = .ok queue) :
    (store.drain actor port).2 = .ok queue.tokens ∧
      (store.drain actor port).1.queue actor .output port = .ok { queue with tokens := [] } := by
  have still := (h.queues found).still rfl
  rw [PortStore.drain, onQueue_of_ok found]
  constructor
  · simp [Queue.drain, still]
  · rw [queue_mapSide_self _ found, onlyAt, if_pos rfl]
    simp [Queue.drain, still]

/-- Every store that comes of an empty one by any steps obeys the invariant. -/
theorem after_orderly (steps : List Step) :
    (({} : PortStore).after steps).Orderly (lengthsOnEntry steps) := by
  have empty : ({} : PortStore).Sound fun _ _ _ => 0 :=
    { queues := fun found => by cases found
      absent := fun _ => rfl }
  have sound := empty.after steps
  exact
    { toSound := sound
      drains := fun _ _ _ found => sound.drains found
      rounds := fun source target rounds _ _ outFound intoFound =>
        (sound.moveUpTo source target rounds 0).moveOne_round outFound intoFound
      ends := fun _ _ _ _ outFound intoFound => sound.transmit_ended outFound intoFound }

/-- An actor whose out-port is over its capacity, with tokens handed out, comes into a store and
passes on what fits.  What it came with leaves it over its capacity, and the peek is forgotten. -/
theorem overfull_orderly :
    let steps : List Step := [
      .attach ⟨"a"⟩
        { outputs := KeyMap.ofList [("out",
            { capacity := .bounded 1, tokens := [.data .null, .data (.int 1), .data (.int 2)],
              pending := 2 })] },
      .addPort 0 ⟨"b"⟩ .input "in" (some (.bounded 2)), .deliver ⟨"b"⟩ "in" (.data (.int 0)),
      .peek ⟨"b"⟩ "in" 1, .transmit (⟨"a"⟩, "out") (⟨"b"⟩, "in")]
    let store := ({} : PortStore).after steps
    lengthsOnEntry steps ⟨"a"⟩ .output "out" = 3 ∧
      store.queue ⟨"a"⟩ .output "out" =
        .ok { capacity := .bounded 1, tokens := [.data (.int 1), .data (.int 2)] } ∧
      store.queue ⟨"b"⟩ .input "in" =
        .ok { capacity := .bounded 2, tokens := [.data (.int 0), .data .null], pending := 1 } ∧
      (store.drain ⟨"a"⟩ "out").2 = .ok [.data (.int 1), .data (.int 2)] := by
  intro steps store
  have out : store.queue ⟨"a"⟩ .output "out" =
      .ok { capacity := .bounded 1, tokens := [.data (.int 1), .data (.int 2)] } := rfl
  exact ⟨rfl, out, rfl, ((after_orderly steps).drains _ _ _ out).1⟩

end PortStore

end Dataflow
