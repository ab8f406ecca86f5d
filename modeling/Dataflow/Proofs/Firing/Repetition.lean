import Dataflow.Proofs.Firing.Invariant

/-!
# Failures that come again

A call that fails leaves the ports as its last completed firing did.  If the actor, too, is left as
it was by every answer with which nothing fires, then the attempts that were passed over and the one
that failed have changed nothing at all, and so the next call meets the same failure at once.

* `Action.Completes` — the results with which an action fires.
* `Behaviour.Restrained` — all other results leave the actor's state as it was.
* `Behaviour.Restrained.select_error` — the selection in which a call fails starts and ends with the
  same state and the same ports.
* `Behaviour.Restrained.select_again` — once a call has failed, the next selection fails in the same
  way.
* `Behaviour.fireEach_of_select_error` — and so do any number of calls one after the other.
-/

namespace Dataflow

variable {S : Type}

/-! ## Answers that change nothing -/

namespace Action

/-- The result stands for the declared number of values, so that the action fires with it. -/
def Completes (action : Action S) (result : Except Failure ActionResult) : Prop :=
  ∃ answer values, result = .ok answer ∧ answer.values? = some values ∧
    values.length = action.outputArity

/-- A body that fails, declines or produces another number of values than declared leaves the state
as it was.  It may rely on the state being `sound`, and keeps it so. -/
structure Restrained (sound : S → Prop) (action : Action S) : Prop where
  same : ∀ {state}, sound state → ∀ values,
    ¬action.Completes (action.body state values).value.2 →
      (action.body state values).value.1 = state
  sound : ∀ {state}, sound state → ∀ values, sound (action.body state values).value.1

end Action

/-- All bodies of an actor are restrained, and so is the handler in the place of any of them. -/
structure Behaviour.Restrained (behaviour : Behaviour S) (sound : S → Prop) : Prop where
  bodies : ∀ action ∈ behaviour.actions, action.Restrained sound
  handler : ∀ action ∈ behaviour.actions, ∀ {state}, sound state → ∀ reason,
    ¬action.Completes (behaviour.onException state action.name reason).value.2 →
      (behaviour.onException state action.name reason).value.1 = state
  handlerSound : ∀ action ∈ behaviour.actions, ∀ {state}, sound state → ∀ reason,
    sound (behaviour.onException state action.name reason).value.1

namespace Behaviour

variable {behaviour : Behaviour S} {sound : S → Prop} {action : Action S}
  {state after last : S} {store next final : PortStore} {e : FiringError}

/-- What a restrained actor answers to tokens. -/
theorem Restrained.response (restrained : behaviour.Restrained sound)
    (listed : action ∈ behaviour.actions) (start : sound state) {tokens : List Token}
    {result : Except Failure ActionResult}
    (answer : action.response behaviour state tokens = some (after, result)) :
    sound after ∧ (¬action.Completes result → after = state) := by
  rw [Action.response] at answer
  split at answer
  · next reason _ =>
      have kept := restrained.handlerSound action listed start reason
      have same := restrained.handler action listed start reason
      rw [Option.some.inj answer] at kept same
      exact ⟨kept, same⟩
  · split at answer
    · have kept := (restrained.bodies action listed).sound start (tokens.filterMap Token.value?)
      have same := (restrained.bodies action listed).same start (tokens.filterMap Token.value?)
      rw [Option.some.inj answer] at kept same
      exact ⟨kept, same⟩
    · cases answer

/-- An attempt that declines leaves the state as it was. -/
theorem Restrained.handsOn (restrained : behaviour.Restrained sound)
    (listed : action ∈ behaviour.actions) (start : sound state)
    (handed : action.HandsOn behaviour store state after) : after = state := by
  cases handed with
  | disabled _ => rfl
  | unaccepted _ _ => rfl
  | declined _ declined =>
      refine (restrained.response listed start declined).2 ?_
      rintro ⟨answer, values, same, produced, -⟩
      cases same
      cases produced

/-- An attempt that fails leaves the state as it was. -/
theorem Restrained.fails (restrained : behaviour.Restrained sound)
    (listed : action ∈ behaviour.actions) (start : sound state)
    (fails : action.Fails behaviour store state e after) : after = state := by
  cases fails with
  | port _ _ => rfl
  | actor _ invoked =>
      cases invoked with
      | miscounted answered produced count =>
          refine (restrained.response listed start answered).2 ?_
          rintro ⟨answer, values, same, produced', count'⟩
          cases same
          rw [produced] at produced'
          cases produced'
          exact count count'
      | failed answered =>
          refine (restrained.response listed start answered).2 ?_
          rintro ⟨answer, values, same, -⟩
          cases same

theorem Restrained.passedOver (restrained : behaviour.Restrained sound)
    {actions : List (Action S)} (listed : ∀ action ∈ actions, action ∈ behaviour.actions)
    (start : sound state) (passed : PassedOver behaviour store actions state last) :
    last = state := by
  induction passed with
  | nil => rfl
  | cons _ handed _ ih =>
      obtain rfl := restrained.handsOn (listed _ (List.mem_cons_self ..)) start handed
      exact ih (fun other member => listed other (List.mem_cons_of_mem _ member)) start

/-! ## Calls -/

/-- A selection that fails leaves the state and the ports as they were. -/
theorem Restrained.select_error (restrained : behaviour.Restrained sound) (start : sound state)
    (clean : store.Unpeeked behaviour.actor)
    (failed : (behaviour.select state store).value = ⟨last, final, .error e⟩) :
    last = state ∧ final = store := by
  have selected := select_selected clean state
  rw [failed] at selected
  cases selected with
  | failed split passed fails =>
      obtain rfl := restrained.passedOver
        (fun action member => by rw [split]; simp [member]) start passed
      exact ⟨restrained.fails (by rw [split]; simp) start fails, rfl⟩

/-- Whatever a restrained actor may rely on holds at every point of a call. -/
theorem Restrained.keeps (restrained : behaviour.Restrained sound) :
    behaviour.Keeps fun state store => sound state ∧ store.Unpeeked behaviour.actor :=
  .of_answers (fun clean => clean)
    (fun listed start _ _ answer => (restrained.response listed start answer).1)
    (fun _ clean => clean.effect _ _)

/-- When a call has failed, the next selection fails in the same way and changes nothing. -/
theorem Restrained.select_again (restrained : behaviour.Restrained sound) (start : sound state)
    (clean : store.Unpeeked behaviour.actor) {limit : Nat}
    (failed : (behaviour.fire limit state store).value = some ⟨last, final, .error e⟩) :
    (behaviour.select last final).value = ⟨last, final, .error e⟩ := by
  obtain ⟨firings, rest, end', completed, ⟨-, same⟩ | ⟨e', selected, same⟩⟩ :=
    fire_completed failed
  · cases same
  · cases same
    obtain ⟨reached, unpeeked⟩ := completed.keeps restrained.keeps ⟨start, clean⟩
    obtain ⟨rfl, rfl⟩ := restrained.select_error reached unpeeked selected
    exact selected

/-- A call whose first selection fails comes to the same end. -/
theorem fire_of_select_error {limit : Nat} (scans : 0 < limit)
    (failed : (behaviour.select state store).value = ⟨last, final, .error e⟩) :
    (behaviour.fire limit state store).value = some ⟨last, final, .error e⟩ := by
  obtain ⟨limit, rfl⟩ := Nat.exists_eq_succ_of_ne_zero (Nat.ne_of_gt scans)
  simp only [fire, fireFrom, Logged.value_bind, failed]
  rfl

/-- Where the first selection fails, nothing fires. -/
theorem Completed.eq_nil_of_select_error {firings : List Firing} {rest : S}
    (completed : Completed behaviour state store firings rest next)
    (failed : (behaviour.select state store).value = ⟨last, final, .error e⟩) : firings = [] := by
  cases completed with
  | nil => rfl
  | cons selected _ =>
      rw [failed] at selected
      cases selected

/-- Calls one after the other, each with its limit of scans, and each with what the one before it
has left. -/
def fireEach (behaviour : Behaviour S) :
    List Nat → S → PortStore → List (Option (Outcome S PortStore FireReport))
  | [], _, _ => []
  | limit :: rest, state, store =>
    match (behaviour.fire limit state store).value with
    | none => [none]
    | some outcome => some outcome :: fireEach behaviour rest outcome.state outcome.ports

/-- If a selection fails and changes nothing, any number of calls does so. -/
theorem fireEach_of_select_error
    (failed : (behaviour.select state store).value = ⟨state, store, .error e⟩)
    {limits : List Nat} (scans : ∀ limit ∈ limits, 0 < limit) :
    behaviour.fireEach limits state store =
      limits.map fun _ => some ⟨state, store, .error e⟩ := by
  induction limits with
  | nil => rfl
  | cons limit rest ih =>
      have first := fire_of_select_error (scans limit (List.mem_cons_self ..)) failed
      simp only [fireEach, first, List.map_cons]
      rw [ih fun other member => scans other (List.mem_cons_of_mem _ member)]

end Behaviour

end Dataflow
