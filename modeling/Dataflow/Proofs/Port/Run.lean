import Dataflow.Action.Fire
import Dataflow.Proofs.Port.Transaction

/-!
# Runs of a store

A store of ports is worked by its host and by the engine, one operation after the other, and each
leaves a store behind also when it fails.  Here is what such an operation does to the queues, for
names of any kind: known ones, unknown ones and repeated ones.

* `PortStore.Step`, `PortStore.perform`, `PortStore.after` — an operation, the store it leaves
  behind, and the one after several of them.
* `PortStore.fst_commit`, `PortStore.fst_cancel` — commits and cancels as changes of the in-ports.
* `PortStore.fst_addPort`, `PortStore.queue_attach_eq_ok_iff`, `PortStore.queue_detach_eq_ok_iff` —
  how ports come into a store and leave it.
* `PortStore.moveOne_of_ok` — a round of a transmission.
-/

namespace Dataflow

namespace PortStore

/-! ## Operations one after the other -/

/-- What is done to a store, by its host or by the engine. -/
inductive Step : Type 1 where
  /-- A port without a capacity gets the one of the settings, `size`. -/
  | addPort (size : Nat) (actor : ActorRef) (direction : Direction) (port : String)
      (capacity : Option Capacity)
  | deliver (actor : ActorRef) (port : String) (token : Token)
  | drain (actor : ActorRef) (port : String)
  | transmit (source target : ActorRef × String)
  | detach (actor : ActorRef)
  | attach (actor : ActorRef) (ports : PortSet)
  | tokensAvailable (actor : ActorRef) (port : String) (count : Nat)
  | slotsAvailable (actor : ActorRef) (port : String) (count : Nat)
  | peek (actor : ActorRef) (port : String) (count : Nat)
  | commit (actor : ActorRef) (names : List String)
  | cancel (actor : ActorRef) (names : List String)
  | write (actor : ActorRef) (port : String) (token : Token)
  /-- A call to fire any actor, in any state. -/
  | fire {S : Type} (behaviour : Behaviour S) (limit : Nat) (state : S)

/-- The store that a step leaves behind, whatever it answers.  A call that does not come to an end
leaves none, so the store stays as it was. -/
def perform (store : PortStore) : Step → PortStore
  | .addPort size actor direction port capacity =>
    (store.addPort size actor direction port capacity).value.1
  | .deliver actor port token => (store.deliver actor port token).1
  | .drain actor port => (store.drain actor port).1
  | .transmit source target => (store.transmit source target).value.1
  | .detach actor => (store.detach actor).1
  | .attach actor ports => store.attach actor ports
  | .tokensAvailable actor port count => (PortAccess.tokensAvailable store actor port count).1
  | .slotsAvailable actor port count => (PortAccess.slotsAvailable store actor port count).1
  | .peek actor port count => (store.peek actor port count).1
  | .commit actor names => (store.commit actor names).1
  | .cancel actor names => (store.cancel actor names).1
  | .write actor port token => (store.write actor port token).1
  | .fire behaviour limit state =>
    match (behaviour.fire limit state store).value with
    | none => store
    | some outcome => outcome.ports

/-- The store after some steps. -/
def after (store : PortStore) (steps : List Step) : PortStore := steps.foldl perform store

@[simp] theorem after_nil (store : PortStore) : store.after [] = store := rfl

@[simp] theorem after_cons (store : PortStore) (step : Step) (steps : List Step) :
    store.after (step :: steps) = (store.perform step).after steps := rfl

variable {store : PortStore} {actor other : ActorRef} {direction way : Direction}
  {port name : String} {queue : Queue}

/-! ## Commits and cancels -/

theorem fst_commitEach (names : List String) (store : PortStore) (exhausted : NameSet) :
    (commitEach actor names store exhausted).1 = store.committed actor names := by
  induction names generalizing store exhausted with
  | nil => simp [commitEach, committed, mapSide_eq_self]
  | cons name rest ih =>
      cases found : store.queue actor .input name with
      | ok queue =>
          simp only [commitEach, found, ih, committed_cons rest found]
      | error e =>
          simp only [commitEach, found, ih]
          refine mapSide_congr fun other queue found' => ?_
          simp only [List.mem_cons, ne_of_queue found' found, false_or]

/-- A commit either does nothing or commits all the ports that it is given. -/
theorem fst_commit (store : PortStore) (actor : ActorRef) (names : List String) :
    (store.commit actor names).1 = store ∨
      (store.commit actor names).1 = store.committed actor names := by
  rw [commit]
  split
  · exact Or.inl rfl
  · exact Or.inr (fst_commitEach names store ∅)

/-- The store after a cancel of some in-ports. -/
def cancelled (store : PortStore) (actor : ActorRef) (names : List String) : PortStore :=
  store.mapSide actor .input fun port queue => if port ∈ names then queue.cancel else queue

/-- A cancel reaches every port that exists, whichever others it is given. -/
theorem fst_cancel (store : PortStore) (actor : ActorRef) (names : List String) :
    (store.cancel actor names).1 = store.cancelled actor names := by
  induction names generalizing store with
  | nil => simp [cancel, cancelled, mapSide_eq_self]
  | cons name rest ih =>
      cases found : store.queue actor .input name with
      | ok queue =>
          simp only [cancel, found, ih]
          rw [setQueue_eq_mapSide found, cancelled, cancelled, mapSide_mapSide]
          refine mapSide_congr_at found ?_ fun other queue' different => ?_
          · simp [onlyAt, Queue.cancel]
          · simp [onlyAt, different]
      | error e =>
          simp only [cancel, found, ih]
          refine mapSide_congr fun other queue found' => ?_
          simp only [List.mem_cons, ne_of_queue found' found, false_or]

/-! ## Ports that come and go -/

/-- A port that is there is not added again; the entry of its actor is there, too. -/
theorem addPort_of_ok (found : store.queue actor direction port = .ok queue) (size : Nat)
    (capacity : Option Capacity) :
    store.addPort size actor direction port capacity =
      pure (store, .error (.duplicatePort actor port direction)) := by
  obtain ⟨ports, known, there⟩ := queue_eq_ok_iff.1 found
  have taken : (ports.side direction).contains port = true := by
    rw [KeyMap.contains, there]
    rfl
  simp only [addPort, known, Option.getD_some, if_pos taken, setPorts_self known]

/-- A port that is not there is added, whether its actor has an entry or not. -/
theorem addPort_of_error {e : PortError}
    (absent : store.queue actor direction port = .error e) (size : Nat)
    (capacity : Option Capacity) :
    ∃ given, (∀ asked, capacity = some asked → given = asked) ∧
      (store.addPort size actor direction port capacity).value =
        (store.setQueue actor direction port (Queue.new given), .ok ()) := by
  have fresh : ¬((((store.ports? actor).getD {}).side direction).contains port = true) := by
    intro taken
    cases known : store.ports? actor with
    | none =>
        rw [known] at taken
        cases direction <;> cases taken
    | some ports =>
        obtain ⟨queue, there⟩ := Option.isSome_iff_exists.1 taken
        rw [known, Option.getD_some] at there
        cases absent.symm.trans (queue_eq_ok_iff.2 ⟨ports, known, there⟩)
  simp only [addPort, if_neg fresh, setPorts_setPorts]
  cases capacity with
  | none => exact ⟨_, nofun, rfl⟩
  | some given => exact ⟨given, fun _ same => Option.some.inj same, rfl⟩

/-- Adding a port either does nothing or puts an empty queue where there was none. -/
theorem fst_addPort (store : PortStore) (size : Nat) (actor : ActorRef) (direction : Direction)
    (port : String) (capacity : Option Capacity) :
    (store.addPort size actor direction port capacity).value.1 = store ∨
      (∀ queue, store.queue actor direction port ≠ .ok queue) ∧
        ∃ given, (store.addPort size actor direction port capacity).value.1 =
          store.setQueue actor direction port (Queue.new given) := by
  cases found : store.queue actor direction port with
  | ok queue =>
      refine Or.inl ?_
      rw [addPort_of_ok found, Logged.value_pure]
  | error e =>
      obtain ⟨given, -, added⟩ := addPort_of_error found size capacity
      exact Or.inr ⟨nofun, given, congrArg Prod.fst added⟩

/-- Adding a port leaves the queues that are there alone, its own included. -/
theorem queue_addPort {size : Nat} {capacity : Option Capacity}
    (found : store.queue actor direction port = .ok queue) :
    (store.addPort size other way name capacity).value.1.queue actor direction port =
      .ok queue := by
  rcases store.fst_addPort size other way name capacity with same | ⟨absent, given, added⟩
  · rw [same, found]
  · rw [added, queue_setQueue_eq_ok_iff, if_neg]
    · exact found
    · rintro ⟨rfl, rfl, rfl⟩
      exact absent queue found

theorem queue_attach_eq_ok_iff {ports : PortSet} :
    (store.attach actor ports).queue other way name = .ok queue ↔
      if other = actor then
        ∃ brought, (ports.side way).get? name = some brought ∧ brought.cancel = queue
      else store.queue other way name = .ok queue := by
  by_cases same : other = actor
  · subst same
    rw [if_pos rfl, attach, queue_eq_ok_iff, ports?_setPorts_self]
    cases way <;> simp [PortSet.settle, PortSet.side]
  · rw [if_neg same, attach, queue_congr (ports?_setPorts_of_ne _ same _)]

theorem queue_detach_eq_ok_iff :
    (store.detach actor).1.queue other way name = .ok queue ↔
      other ≠ actor ∧ store.queue other way name = .ok queue := by
  by_cases same : other = actor
  · subst same
    have gone : (store.detach other).1.ports? other = none := KeyMap.get?_erase_self ..
    rw [queue_of_ports?_none gone]
    exact iff_of_false nofun fun both => both.1 rfl
  · have kept : (store.detach actor).1.ports? other = store.ports? other :=
      KeyMap.get?_erase_of_ne _ fun eq => same (by cases other; cases actor; simp_all)
    rw [queue_congr kept, and_iff_right same]

/-! ## Transmissions -/

/-- A round that does not fail has found both ports. -/
theorem exists_queues_of_moveOne {source target : ActorRef × String} {result : Option PortStore}
    (h : store.moveOne source target = .ok result) :
    ∃ out into, store.queue source.1 .output source.2 = .ok out ∧
      store.queue target.1 .input target.2 = .ok into := by
  simp only [moveOne, bind, Except.bind] at h
  split at h
  · cases h
  · rename_i into intoFound
    split at h
    · cases h
    · rename_i out outFound
      exact ⟨out, into, outFound, intoFound⟩

/-- A round of a transmission, from an out-port without a pending peek: it moves the oldest token,
if there is one and room for it. -/
theorem moveOne_of_ok {source target : ActorRef × String} {out into : Queue}
    (outFound : store.queue source.1 .output source.2 = .ok out)
    (intoFound : store.queue target.1 .input target.2 = .ok into) (still : out.pending = 0) :
    store.moveOne source target =
      .ok (match out.tokens with
        | [] => none
        | token :: rest =>
          if into.slotsAvailable 1 then
            some ((store.setQueue source.1 .output source.2 { out with tokens := rest }).setQueue
              target.1 .input target.2 { into with tokens := into.tokens ++ [token] })
          else none) := by
  simp only [moveOne, outFound, intoFound, bind, Except.bind]
  cases queued : out.tokens with
  | nil =>
      have none : out.tokensAvailable 1 = false := by
        simp [Queue.tokensAvailable, Queue.available, Queue.length, queued]
      simp [none]
  | cons token rest =>
      have one : out.tokensAvailable 1 = true := by
        simp [Queue.tokensAvailable, Queue.available, Queue.length, queued, still]
      by_cases room : into.slotsAvailable 1 = true
      · have taken : out.peek 1 = ({ out with pending := 1 }, some [token]) := by
          simp [Queue.peek, one, still, queued]
        have left : ({ out with pending := 1 } : Queue).commit.1 =
            { out with tokens := rest } := by
          simp [Queue.commit, queued, still]
        have intoFound' : (store.setQueue source.1 .output source.2
            { out with tokens := rest }).queue target.1 .input target.2 = .ok into := by
          rw [queue_setQueue_eq_ok_iff, if_neg (by simp)]
          exact intoFound
        simp only [room, one, Bool.and_true, if_true, taken, left, Option.bind_some,
          List.getLast?_singleton, deliver, onQueue, intoFound', append, Queue.write?, Except.map]
      · simp only [Bool.not_eq_true] at room
        simp [room]

end PortStore

end Dataflow
