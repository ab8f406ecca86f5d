import Dataflow.Proofs.Firing.Conservation

/-!
# Actions in the order of their priorities

Within one call the ports only get worse for an actor: nothing comes in and nothing is taken out.
An action that lacks tokens or room at some point of the call therefore lacks them ever after.  If
nothing but the ports can keep an action from firing, an action that was passed over once is never
the one that fires, although every scan starts again at the top.

* `PortStore.Supplies` — the in-ports hold what an action asks for, and the out-ports have room.
  Firings never bring this about (`PortStore.Advances.supplies`).
* `Behaviour.Eager` — the actor neither guards its actions nor declines.
* `Behaviour.select_above`, `Behaviour.Completed.priority_le` — what one selection says of the
  actions above the one that fires, and what that means for all firings after it.
* `Behaviour.fire_in_order` — the firings of a call go down the priority list.
-/

namespace Dataflow

/-! ## Ports that get worse -/

namespace PortStore

/-- The in-ports hold the demand of an action, and the out-ports have room for what it produces. -/
structure Supplies {S : Type} (store : PortStore) (actor : ActorRef) (action : Action S) :
    Prop where
  tokens : store.Holds actor action.inputs
  room : store.HasRoom actor action.outputs

variable {actor : ActorRef} {before after : PortStore}

/-- What an in-port holds after some firings it held before them. -/
theorem Advances.holds (h : Advances actor before after) {inputs : List PortCount}
    (holds : after.Holds actor inputs) : before.Holds actor inputs := by
  intro input declared
  obtain ⟨queue, found, enough⟩ := holds input declared
  cases start : before.queue actor .input input.port with
  | error e =>
      rw [h.absent _ _ e start] at found
      cases found
  | ok old =>
      obtain ⟨left, part, found'⟩ := h.inputs input.port old start
      rw [found] at found'
      cases found'
      exact ⟨old, rfl, enough.trans part.length_le⟩

/-- Room that an out-port has after some firings it had before them. -/
theorem Advances.hasRoom (h : Advances actor before after) {outputs : List PortCount}
    (room : after.HasRoom actor outputs) : before.HasRoom actor outputs := by
  intro output declared
  obtain ⟨queue, found, free⟩ := room output declared
  cases start : before.queue actor .output output.port with
  | error e =>
      rw [h.absent _ _ e start] at found
      cases found
  | ok old =>
      obtain ⟨values, found', -⟩ := h.outputs output.port old start
      rw [found] at found'
      cases found'
      refine ⟨old, rfl, Queue.slotsAvailable_iff.2 fun size bound => ?_⟩
      have fewer := Queue.slotsAvailable_iff.1 free size bound
      simp only [Queue.length, List.length_append] at fewer ⊢
      omega

/-- What is there for an action after some firings was there before them. -/
theorem Advances.supplies {S : Type} (h : Advances actor before after) {action : Action S}
    (supplied : after.Supplies actor action) : before.Supplies actor action :=
  ⟨h.holds supplied.tokens, h.hasRoom supplied.room⟩

end PortStore

/-! ## Eager actors -/

/-- The actor guards none of its actions, and neither the bodies nor the handler decline. -/
structure Behaviour.Eager {S : Type} (behaviour : Behaviour S) : Prop where
  unguarded : ∀ action ∈ behaviour.actions, action.guard = none ∧ action.inputGuard = none
  body : ∀ action ∈ behaviour.actions, ∀ state values,
    (action.body state values).value.2 ≠ .ok (.fired false)
  handler : ∀ state name reason,
    (behaviour.onException state name reason).value.2 ≠ .ok (.fired false)

namespace Behaviour

variable {S : Type} {behaviour : Behaviour S} {state after last : S} {store next final : PortStore}

/-- An eager actor has an answer to all tokens, and it is not a decline. -/
theorem Eager.answers (eager : behaviour.Eager) {action : Action S}
    (listed : action ∈ behaviour.actions) (state : S) (tokens : List Token) :
    ∃ after result, action.response behaviour state tokens = some (after, result) ∧
      result ≠ .ok (.fired false) := by
  cases exception : tokens.findSome? Token.reason? with
  | some reason =>
      refine ⟨(behaviour.onException state action.name reason).value.1, _, ?_,
        eager.handler state action.name reason⟩
      simp only [Action.response, exception]
  | none =>
      have accepted : action.accepts state (tokens.filterMap Token.value?) = true := by
        rw [Action.accepts, (eager.unguarded action listed).2, Option.all_none]
      have willing := eager.body action listed state (tokens.filterMap Token.value?)
      refine ⟨(action.body state (tokens.filterMap Token.value?)).value.1, _, ?_, willing⟩
      simp only [Action.response, exception, if_pos accepted]

/-- Nothing but the ports keeps an action of an eager actor from being ready. -/
theorem Eager.ready (eager : behaviour.Eager) {action : Action S}
    (listed : action ∈ behaviour.actions) (supplied : store.Supplies behaviour.actor action)
    (state : S) : action.Ready behaviour state store where
  guard := by rw [Action.open?, (eager.unguarded action listed).1, Option.all_none]
  tokens := supplied.tokens
  room := supplied.room
  willing := eager.answers listed state _

/-- Actions of an eager actor are passed over for want of tokens or room. -/
theorem PassedOver.unsupplied (eager : behaviour.Eager) {actions : List (Action S)}
    (listed : ∀ action ∈ actions, action ∈ behaviour.actions)
    (passed : PassedOver behaviour store actions state last) :
    ∀ action ∈ actions, ¬store.Supplies behaviour.actor action := by
  induction passed with
  | nil => exact fun _ member => absurd member List.not_mem_nil
  | cons unready _ _ ih =>
      intro action member supplied
      rcases List.mem_cons.1 member with rfl | later
      · exact unready (eager.ready (listed action member) supplied _)
      · exact ih (fun other there => listed other (List.mem_cons_of_mem _ there)) action later
          supplied

/-! ## One selection -/

/-- The action that fires stands at the place that the firing names, and it is supplied. -/
theorem select_place (clean : store.Unpeeked behaviour.actor) {firing : Firing}
    (h : (behaviour.select state store).value = ⟨after, next, .ok (some firing)⟩) :
    ∃ action, behaviour.actions[firing.priority]? = some action ∧
      firing.action = action.name ∧ store.Supplies behaviour.actor action := by
  have selected := select_selected clean state
  rw [h] at selected
  cases selected with
  | @fired passed _ action _ _ _ split _ fires =>
      rw [Action.firing, Nat.zero_add, split]
      exact ⟨action, by simp, rfl, fires.tokens, fires.room⟩

/-- No action above the one that fires is supplied. -/
theorem select_above (clean : store.Unpeeked behaviour.actor) (eager : behaviour.Eager)
    {firing : Firing}
    (h : (behaviour.select state store).value = ⟨after, next, .ok (some firing)⟩) :
    ∀ action ∈ behaviour.actions.take firing.priority,
      ¬store.Supplies behaviour.actor action := by
  have selected := select_selected clean state
  rw [h] at selected
  cases selected with
  | @fired passed _ _ _ _ _ split skipped _ =>
      rw [Action.firing, Nat.zero_add, split, List.take_left]
      exact skipped.unsupplied eager fun other member => by simp [split, member]

/-! ## All firings of a call -/

/-- Every firing is reported with the name and the place of the action that fired. -/
theorem Completed.places {firings : List Firing}
    (h : Completed behaviour state store firings last final)
    (clean : store.Unpeeked behaviour.actor) :
    ∀ firing ∈ firings, ∃ action, behaviour.actions[firing.priority]? = some action ∧
      firing.action = action.name := by
  induction h with
  | nil => exact fun _ member => absurd member List.not_mem_nil
  | cons selected _ ih =>
      have advances := (select_conserves clean selected).toAdvances
      intro firing member
      rcases List.mem_cons.1 member with rfl | later
      · obtain ⟨action, there, name, -⟩ := select_place clean selected
        exact ⟨action, there, name⟩
      · exact ih (advances.unpeeked clean) firing later

/-- Actions that are not supplied before some firings have no part in them. -/
theorem Completed.priority_le {firings : List Firing}
    (h : Completed behaviour state store firings last final)
    (clean : store.Unpeeked behaviour.actor) {priority : Nat}
    (above : ∀ action ∈ behaviour.actions.take priority,
      ¬store.Supplies behaviour.actor action) :
    ∀ firing ∈ firings, priority ≤ firing.priority := by
  induction h with
  | nil => exact fun _ member => absurd member List.not_mem_nil
  | cons selected _ ih =>
      have advances := (select_conserves clean selected).toAdvances
      intro firing member
      rcases List.mem_cons.1 member with rfl | later
      · obtain ⟨action, there, -, supplied⟩ := select_place clean selected
        refine Nat.le_of_not_lt fun below => above action ?_ supplied
        exact List.mem_of_getElem? ((List.getElem?_take_of_lt below).trans there)
      · exact ih (advances.unpeeked clean)
          (fun action member supplied => above action member (advances.supplies supplied))
          firing later

/-- What a firing passes over, no later one comes back to. -/
theorem Completed.ordered (eager : behaviour.Eager) {firings : List Firing}
    (h : Completed behaviour state store firings last final)
    (clean : store.Unpeeked behaviour.actor) :
    firings.Pairwise fun earlier later => earlier.priority ≤ later.priority := by
  induction h with
  | nil => exact .nil
  | cons selected completed ih =>
      have advances := (select_conserves clean selected).toAdvances
      have above := select_above clean eager selected
      refine .cons ?_ (ih (advances.unpeeked clean))
      exact completed.priority_le (advances.unpeeked clean) fun action member supplied =>
        above action member (advances.supplies supplied)

/-- If a call of an eager actor succeeds, its firings go down the priority list: the actions that a
firing passes over fire no more in that call. -/
theorem fire_in_order (clean : store.Unpeeked behaviour.actor) (eager : behaviour.Eager)
    {limit : Nat} {report : FireReport}
    (h : (behaviour.fire limit state store).value = some ⟨last, final, .ok report⟩) :
    (report.firings.Pairwise fun earlier later => earlier.priority ≤ later.priority) ∧
      ∀ firing ∈ report.firings, ∃ action, behaviour.actions[firing.priority]? = some action ∧
        firing.action = action.name := by
  obtain ⟨firings, rest, completed, -, reported⟩ := fire_completed_ports clean h
  rw [reported report rfl]
  exact ⟨completed.ordered eager clean, completed.places clean⟩

/-- The ports of an actor with three in-ports, and an out-port of three places. -/
def sharedPorts (actor : ActorRef) : PortStore where
  actors := KeyMap.ofList [(actor.id,
    { inputs := KeyMap.ofList
        [("a", { capacity := .unbounded, tokens := [.data .null] }),
          ("b", { capacity := .unbounded, tokens := [.data .null, .data .null] }),
          ("c", { capacity := .unbounded, tokens := [.data .null] })]
      outputs := KeyMap.ofList [("out", Queue.new (.bounded 3))] })]

theorem prioritized_eager (actor : ActorRef) :
    ((Actors.Prioritized.type : ActorType Unit _).behaviour actor).Eager where
  unguarded action listed := by
    simp only [ActorType.behaviour, Actors.Prioritized.type, List.mem_cons, List.not_mem_nil,
      or_false] at listed
    rcases listed with rfl | rfl | rfl <;> exact ⟨rfl, rfl⟩
  body action listed state values := by
    simp only [ActorType.behaviour, Actors.Prioritized.type, List.mem_cons, List.not_mem_nil,
      or_false] at listed
    rcases listed with rfl | rfl | rfl <;> exact nofun
  handler _ _ _ := nofun

/-- The three actions compete for the places of one out-port, and the last of them gets none. -/
theorem prioritized_in_order : ∃ last final report,
    ((Actors.Prioritized.type.behaviour ⟨"p"⟩).fire 4 (bareInstance ⟨"p"⟩ {})
      (sharedPorts ⟨"p"⟩)).value = some ⟨last, final, .ok report⟩ ∧
    report.firings.map Firing.priority = [0, 1, 1] ∧
    report.firings.Pairwise fun earlier later => earlier.priority ≤ later.priority := by
  have clean : (sharedPorts ⟨"p"⟩).Unpeeked ⟨"p"⟩ := by
    have queues : (sharedPorts ⟨"p"⟩).queues ⟨"p"⟩ .input =
        [("a", ⟨.unbounded, [.data .null], 0⟩), ("b", ⟨.unbounded, [.data .null, .data .null], 0⟩),
          ("c", ⟨.unbounded, [.data .null], 0⟩)] := rfl
    refine PortStore.unpeeked_of_queues fun entry listed => ?_
    simp only [queues, List.mem_cons, List.not_mem_nil, or_false] at listed
    rcases listed with rfl | rfl | rfl <;> rfl
  obtain ⟨last, final, report, ran, priorities⟩ : ∃ last final report,
      ((Actors.Prioritized.type.behaviour ⟨"p"⟩).fire 4 (bareInstance ⟨"p"⟩ {})
        (sharedPorts ⟨"p"⟩)).value = some ⟨last, final, .ok report⟩ ∧
      report.firings.map Firing.priority = [0, 1, 1] := ⟨_, _, _, rfl, rfl⟩
  exact ⟨last, final, report, ran, priorities,
    (fire_in_order clean (prioritized_eager ⟨"p"⟩) ran).1⟩

end Behaviour

end Dataflow
