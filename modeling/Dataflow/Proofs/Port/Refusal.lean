import Dataflow.Proofs.Port.Run

/-!
# Refused operations

An operation that a store refuses leaves no trace.  This is a matter of order: work on one queue
puts back the queue that it found, adding a port looks for a namesake before it makes one, and a
commit looks up all of its ports before it touches the first.  A cancel is the exception.  It has
to set free what was handed out on the ports that exist, so it goes on past the names that do not.

* `PortStore.refusal?` — the error that a store answers to a step.
* `PortStore.peek_refused`, `PortStore.addPort_refused`, `PortStore.commit_refused` — the operations
  that refuse in a way of their own; the others work on one queue (`PortStore.onQueue_refused`).
* `PortStore.fst_cancel_eq_iff`, `PortStore.snd_cancel` — the store after a cancel, which answers
  what looking up its names in turn answers.
* `PortStore.refused_without_trace` — every store after every refused step, and after every cancel.
-/

namespace Dataflow

namespace PortStore

variable {store : PortStore} {actor : ActorRef} {direction : Direction} {port : String}

/-! ## Errors that are answered -/

/-- The error of an answer. -/
def errorOf? {α : Type} : Except PortError α → Option PortError
  | .ok _ => none
  | .error e => some e

@[simp] theorem errorOf?_eq_some {α : Type} {answer : Except PortError α} {e : PortError} :
    errorOf? answer = some e ↔ answer = .error e := by
  cases answer <;> simp [errorOf?]

/-- The error that a store answers to a step, if it refuses it.  To detach or to attach an actor is
never refused, and a transmission or a call to fire is not one operation but many. -/
def refusal? (store : PortStore) : Step → Option PortError
  | .addPort size actor direction port capacity =>
    errorOf? (store.addPort size actor direction port capacity).value.2
  | .deliver actor port token => errorOf? (store.deliver actor port token).2
  | .drain actor port => errorOf? (store.drain actor port).2
  | .tokensAvailable actor port count =>
    errorOf? (PortAccess.tokensAvailable store actor port count).2
  | .slotsAvailable actor port count =>
    errorOf? (PortAccess.slotsAvailable store actor port count).2
  | .peek actor port count => errorOf? (store.peek actor port count).2
  | .commit actor names => errorOf? (store.commit actor names).2
  | .cancel actor names => errorOf? (store.cancel actor names).2
  | .write actor port token => errorOf? (store.write actor port token).2
  | .transmit .. | .detach _ | .attach .. | .fire .. => none

/-! ## Work on one queue -/

theorem peek_refused {count : Nat} {e : PortError}
    (refused : (store.peek actor port count).2 = .error e) :
    (store.peek actor port count).1 = store := by
  refine onQueue_refused ?_ refused
  intro queue e failed
  by_cases enough : queue.tokensAvailable count = true
  · simp [Queue.peek, enough] at failed
  · simp [Queue.peek, enough]

/-! ## Ports that are added -/

/-- A port is refused only for a namesake, and where one is, the actor has its entry already. -/
theorem addPort_refused {size : Nat} {capacity : Option Capacity} {e : PortError}
    (refused : (store.addPort size actor direction port capacity).value.2 = .error e) :
    (store.addPort size actor direction port capacity).value.1 = store := by
  cases found : store.queue actor direction port with
  | ok queue => rw [addPort_of_ok found, Logged.value_pure]
  | error missing =>
      obtain ⟨given, -, added⟩ := addPort_of_error found size capacity
      rw [added] at refused
      cases refused

/-! ## Names looked up in turn -/

/-- Looking up in-ports in turn fails at the first one that does not exist. -/
theorem forM_queue_eq_error_iff {names : List String} {e : PortError} :
    (names.forM fun name => (store.queue actor .input name).map fun _ => ()) = .error e ↔
      ∃ known name later, names = known ++ name :: later ∧
        (∀ other ∈ known, ∃ queue, store.queue actor .input other = .ok queue) ∧
        store.queue actor .input name = .error e := by
  constructor
  · intro failed
    induction names with
    | nil => cases failed
    | cons name rest ih =>
        rw [List.forM_eq_forM, List.forM_cons] at failed
        cases found : store.queue actor .input name with
        | error missing =>
            rw [found] at failed
            cases failed
            exact ⟨[], name, rest, rfl, nofun, found⟩
        | ok queue =>
            rw [found] at failed
            obtain ⟨known, other, later, split, exist, missing⟩ := ih failed
            refine ⟨name :: known, other, later, by rw [split, List.cons_append], ?_, missing⟩
            intro earlier member
            rcases List.mem_cons.1 member with rfl | member
            · exact ⟨queue, found⟩
            · exact exist earlier member
  · rintro ⟨known, name, later, rfl, exist, missing⟩
    induction known with
    | nil =>
        rw [List.nil_append, List.forM_eq_forM, List.forM_cons, missing]
        rfl
    | cons first known ih =>
        obtain ⟨queue, found⟩ := exist first (List.mem_cons_self ..)
        rw [List.cons_append, List.forM_eq_forM, List.forM_cons, found]
        exact ih fun other member => exist other (List.mem_cons_of_mem _ member)

/-- Looking up in-ports in turn succeeds only if all of them exist. -/
theorem known_of_forM_queue {names : List String} {answer : Unit}
    (looked : (names.forM fun name => (store.queue actor .input name).map fun _ => ()) =
      .ok answer) :
    ∀ name ∈ names, ∃ queue, store.queue actor .input name = .ok queue := by
  intro name member
  induction names with
  | nil => cases member
  | cons first rest ih =>
      rw [List.forM_eq_forM, List.forM_cons] at looked
      cases found : store.queue actor .input first with
      | error e =>
          rw [found] at looked
          cases looked
      | ok queue =>
          rw [found] at looked
          rcases List.mem_cons.1 member with rfl | member
          · exact ⟨queue, found⟩
          · exact ih looked member

/-- A commit is refused before the first port is touched. -/
theorem commit_refused {names : List String} {e : PortError}
    (refused : (store.commit actor names).2 = .error e) : (store.commit actor names).1 = store := by
  unfold commit at refused ⊢
  split at refused
  · rfl
  · cases refused

/-! ## Cancels -/

/-- The queues that a cancel has reached are there before and after, so the names left to look up
are known or unknown as before. -/
theorem snd_cancel (store : PortStore) (actor : ActorRef) (names : List String) :
    (store.cancel actor names).2 =
      names.forM fun name => (store.queue actor .input name).map fun _ => () := by
  induction names generalizing store with
  | nil => rfl
  | cons name rest ih =>
      rw [List.forM_eq_forM, List.forM_cons]
      cases found : store.queue actor .input name with
      | error e =>
          rw [cancel, found]
          rfl
      | ok queue =>
          have lookups (other : String) :
              ((store.setQueue actor .input name queue.cancel).queue actor .input other).map
                  (fun _ => ()) = (store.queue actor .input other).map fun _ => () := by
            rw [setQueue_eq_mapSide found, queue_mapSide, if_pos ⟨rfl, rfl⟩]
            cases store.queue actor .input other <;> rfl
          simp only [cancel, found, ih, lookups]
          rfl

/-- A cancel takes the cursors back on the ports it names, and does nothing else. -/
theorem queue_cancel (store : PortStore) (actor : ActorRef) (names : List String)
    (other : ActorRef) (direction : Direction) (port : String) :
    (store.cancel actor names).1.queue other direction port =
      if other = actor ∧ direction = .input ∧ port ∈ names then
        (store.queue other direction port).map fun queue => { queue with pending := 0 }
      else store.queue other direction port := by
  rw [fst_cancel, cancelled, queue_mapSide]
  by_cases here : other = actor ∧ direction = .input
  · rw [if_pos here]
    by_cases named : port ∈ names
    · rw [if_pos ⟨here.1, here.2, named⟩]
      simp only [if_pos named]
      rfl
    · rw [if_neg fun all => named all.2.2]
      simp only [if_neg named]
      cases store.queue other direction port <;> rfl
  · rw [if_neg here, if_neg fun all => here ⟨all.1, all.2.1⟩]

/-- The store after a cancel is the only one with these answers. -/
theorem fst_cancel_eq_iff {store next : PortStore} {actor : ActorRef} {names : List String} :
    (store.cancel actor names).1 = next ↔ ∀ other direction port,
      next.queue other direction port =
        if other = actor ∧ direction = .input ∧ port ∈ names then
          (store.queue other direction port).map fun queue => { queue with pending := 0 }
        else store.queue other direction port := by
  constructor
  · rintro rfl
    exact store.queue_cancel actor names
  · intro answers
    refine ext_queue fun other direction port => ?_
    rw [queue_cancel, answers]

/-! ## Any step -/

/-- In every store, a step that is refused leaves the store as it was, unless it is a cancel.  A
cancel, refused or not, takes back the cursors of those of its in-ports that exist and changes
nothing else: the store is the one that answers so for all ports, whether they exist or not.  It is
refused if and only if one of its names is unknown, with the error of the first such name. -/
theorem refused_without_trace (store : PortStore) :
    (∀ step e, (∀ actor names, step ≠ .cancel actor names) → store.refusal? step = some e →
      store.perform step = store) ∧
    ∀ actor names,
      (∀ next, (store.cancel actor names).1 = next ↔ ∀ other direction port,
        next.queue other direction port =
          if other = actor ∧ direction = .input ∧ port ∈ names then
            (store.queue other direction port).map fun queue => { queue with pending := 0 }
          else store.queue other direction port) ∧
      ((∃ e, (store.cancel actor names).2 = .error e) ↔
        ∃ name ∈ names, ∃ e, store.queue actor .input name = .error e) ∧
      ∀ e, (store.cancel actor names).2 = .error e ↔
        ∃ known name later, names = known ++ name :: later ∧
          (∀ other ∈ known, ∃ queue, store.queue actor .input other = .ok queue) ∧
          store.queue actor .input name = .error e := by
  refine ⟨?_, fun actor names => ⟨fun _ => fst_cancel_eq_iff, ?_, fun e => ?_⟩⟩
  · intro step e other refused
    cases step with
    | addPort => exact addPort_refused (errorOf?_eq_some.1 refused)
    | deliver => exact onQueue_refused (fun _ _ => append_refused) (errorOf?_eq_some.1 refused)
    | drain =>
        exact onQueue_refused (fun _ _ failed => by cases failed) (errorOf?_eq_some.1 refused)
    | tokensAvailable => rfl
    | slotsAvailable => rfl
    | peek => exact peek_refused (errorOf?_eq_some.1 refused)
    | commit => exact commit_refused (errorOf?_eq_some.1 refused)
    | cancel actor names => exact absurd rfl (other actor names)
    | write => exact onQueue_refused (fun _ _ => append_refused) (errorOf?_eq_some.1 refused)
    | transmit | detach | attach | fire => cases refused
  · rw [snd_cancel]
    constructor
    · rintro ⟨e, failed⟩
      obtain ⟨known, name, later, rfl, -, missing⟩ := forM_queue_eq_error_iff.1 failed
      exact ⟨name, by simp, e, missing⟩
    · rintro ⟨name, member, e, missing⟩
      cases looked : names.forM fun name => (store.queue actor .input name).map fun _ => () with
      | error e => exact ⟨e, rfl⟩
      | ok answer =>
          obtain ⟨queue, found⟩ := known_of_forM_queue looked name member
          cases found.symm.trans missing
  · rw [snd_cancel]
    exact forM_queue_eq_error_iff

/-- A port is half read when a commit names an unknown port behind it: nothing is committed.  A
cancel that names the unknown port first is refused as well, but the cursor is back. -/
theorem halfRead_without_trace :
    let store := ({} : PortStore).after [
      .addPort 0 ⟨"a"⟩ .input "in" (some (.bounded 2)), .deliver ⟨"a"⟩ "in" (.data (.int 1)),
      .deliver ⟨"a"⟩ "in" (.data (.int 2)), .peek ⟨"a"⟩ "in" 1]
    store.queue ⟨"a"⟩ .input "in" =
        .ok { capacity := .bounded 2, tokens := [.data (.int 1), .data (.int 2)], pending := 1 } ∧
      store.refusal? (.commit ⟨"a"⟩ ["in", "gone"]) =
        some (.unknownPort ⟨"a"⟩ "gone" .input) ∧
      store.perform (.commit ⟨"a"⟩ ["in", "gone"]) = store ∧
      (store.cancel ⟨"a"⟩ ["gone", "in"]).2 = .error (.unknownPort ⟨"a"⟩ "gone" .input) ∧
      (store.cancel ⟨"a"⟩ ["gone", "in"]).1.queue ⟨"a"⟩ .input "in" =
        .ok { capacity := .bounded 2, tokens := [.data (.int 1), .data (.int 2)] } := by
  intro store
  obtain ⟨refused, cancels⟩ := refused_without_trace store
  obtain ⟨answers, -, errors⟩ := cancels ⟨"a"⟩ ["gone", "in"]
  refine ⟨rfl, rfl, refused _ (.unknownPort ⟨"a"⟩ "gone" .input) nofun rfl, ?_, ?_⟩
  · exact (errors _).2 ⟨[], "gone", ["in"], rfl, nofun, rfl⟩
  · exact ((answers _).1 rfl ⟨"a"⟩ .input "in").trans rfl

end PortStore

end Dataflow
