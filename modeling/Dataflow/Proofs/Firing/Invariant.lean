import Dataflow.Proofs.Firing.Selection

/-!
# What firing keeps

A property of an actor's state and of the ports holds after a whole call if every attempt keeps it:
one that declines, one that fails and one that fires.

* `Behaviour.Keeps` — the attempts of an actor keep a property.
* `Behaviour.fire_keeps` — then a call keeps it, whatever the call ends in.
* `Behaviour.Keeps.of_answers` — the properties that speak of state and ports apart are kept if the
  actor's answers keep the one and the effects of firings the other.
-/

namespace Dataflow

namespace Behaviour

variable {S : Type} {behaviour : Behaviour S} {holds : S → PortStore → Prop} {state : S}
  {store : PortStore}

/-- Every attempt keeps the property, under which there is no pending peek. -/
structure Keeps (behaviour : Behaviour S) (holds : S → PortStore → Prop) : Prop where
  clean : ∀ {state store}, holds state store → store.Unpeeked behaviour.actor
  handsOn : ∀ {action state store after}, action ∈ behaviour.actions → holds state store →
    action.HandsOn behaviour store state after → holds after store
  fails : ∀ {action state store e after}, action ∈ behaviour.actions → holds state store →
    action.Fails behaviour store state e after → holds after store
  fires : ∀ {action state store values after}, action ∈ behaviour.actions → holds state store →
    action.Fires behaviour store state values after →
      holds after (action.effect behaviour.actor values store)

theorem PassedOver.keeps (keeps : behaviour.Keeps holds) {actions : List (Action S)} {last : S}
    (listed : ∀ action ∈ actions, action ∈ behaviour.actions)
    (passed : PassedOver behaviour store actions state last) (h : holds state store) :
    holds last store := by
  induction passed with
  | nil => exact h
  | cons _ handed _ ih =>
      have here := listed _ (List.mem_cons_self ..)
      exact ih (fun other member => listed other (List.mem_cons_of_mem _ member))
        (keeps.handsOn here h handed)

theorem select_keeps (keeps : behaviour.Keeps holds) (h : holds state store)
    {last : S} {final : PortStore} {result : Except FiringError (Option Firing)}
    (ran : (behaviour.select state store).value = ⟨last, final, result⟩) : holds last final := by
  have selected := select_selected (keeps.clean h) state
  rw [ran] at selected
  cases selected with
  | rest passed => exact passed.keeps keeps (fun _ member => member) h
  | fired split passed fires =>
      have before := passed.keeps keeps (fun action member => by rw [split]; simp [member]) h
      exact keeps.fires (by rw [split]; simp) before fires
  | failed split passed fails =>
      have before := passed.keeps keeps (fun action member => by rw [split]; simp [member]) h
      exact keeps.fails (by rw [split]; simp) before fails

theorem Completed.keeps (keeps : behaviour.Keeps holds) {firings : List Firing} {last : S}
    {final : PortStore} (completed : Completed behaviour state store firings last final)
    (h : holds state store) : holds last final := by
  induction completed with
  | nil => exact h
  | cons selected _ ih => exact ih (select_keeps keeps h selected)

/-- A call keeps what every attempt keeps, whatever it ends in. -/
theorem fire_keeps (keeps : behaviour.Keeps holds) (h : holds state store) {limit : Nat}
    {last : S} {final : PortStore} {result : Except FiringError FireReport}
    (ran : (behaviour.fire limit state store).value = some ⟨last, final, result⟩) :
    holds last final := by
  obtain ⟨firings, rest, end', completed, ⟨settled, -⟩ | ⟨e, failed, -⟩⟩ := fire_completed ran
  · exact select_keeps keeps (completed.keeps keeps h) settled
  · exact select_keeps keeps (completed.keeps keeps h) failed

/-- A property of the state that the actor's answers keep, and one of the ports that firings keep,
are kept together. -/
theorem Keeps.of_answers {sound : S → Prop} {safe : PortStore → Prop}
    (clean : ∀ {store}, safe store → store.Unpeeked behaviour.actor)
    (answers : ∀ {action state store after result}, action ∈ behaviour.actions → sound state →
      safe store → action.Enabled behaviour.actor state store →
      action.response behaviour state (store.reads behaviour.actor action.inputs) =
        some (after, result) → sound after)
    (effects : ∀ {action values store}, action ∈ behaviour.actions → safe store →
      safe (action.effect behaviour.actor values store)) :
    behaviour.Keeps fun state store => sound state ∧ safe store where
  clean h := clean h.2
  handsOn listed h handed := by
    cases handed with
    | disabled _ => exact h
    | unaccepted _ _ => exact h
    | declined enabled declined => exact ⟨answers listed h.1 h.2 enabled declined, h.2⟩
  fails listed h fails := by
    cases fails with
    | port _ _ => exact h
    | actor enabled invoked =>
        cases invoked with
        | miscounted answer _ _ => exact ⟨answers listed h.1 h.2 enabled answer, h.2⟩
        | failed answer => exact ⟨answers listed h.1 h.2 enabled answer, h.2⟩
  fires listed h fires := by
    obtain ⟨result, answer, -⟩ := fires.answer
    exact ⟨answers listed h.1 h.2 fires.toEnabled answer, effects listed h.2⟩

end Behaviour

end Dataflow
