import Dataflow.Actors.Arithmetic
import Dataflow.Proofs.Firing.Selection

/-!
# All or nothing

An attempt that does not fire leaves the whole store of ports as it was, with the cursors of every
queue, and a call that fails leaves it as its last completed firing did.

* `FiringError.Arises` — the errors that come out of the engine.  A queue that holds too little or
  is full is not among them: both are found out before anything is read or written.
* `Behaviour.fire_all_or_nothing` — what an attempt and a call leave behind, and with which errors.
-/

namespace Dataflow

/-! ## Errors -/

/-- The errors that firing an actor ends in. -/
inductive FiringError.Arises (actor : ActorRef) : FiringError → Prop
  | invalidProduction (action : String) {expected produced : Nat} : produced ≠ expected →
      Arises actor (.invalidProduction actor action expected produced)
  | actionFailed (action : String) (source : Failure) :
      Arises actor (.actionFailed actor action source)
  | unhandledException (action reason : String) (source : Failure) :
      Arises actor (.unhandledException actor action reason source)
  | port {e : PortError} : e.Unknown actor → Arises actor (.port e)

namespace Action

variable {S : Type} {behaviour : Behaviour S} {action : Action S} {state : S} {store : PortStore}

theorem failure_arises (tokens : List Token) (source : Failure) :
    (action.failure behaviour tokens source).Arises behaviour.actor := by
  unfold failure
  split
  · exact .unhandledException ..
  · exact .actionFailed ..

/-- An actor that answers badly is no error of the ports. -/
theorem failure_ne_port (tokens : List Token) (source : Failure) (e : PortError) :
    action.failure behaviour tokens source ≠ .port e := by
  unfold failure
  split <;> intro same <;> cases same

theorem Fails.arises {e : FiringError} {after : S}
    (h : Fails behaviour action store state e after) : e.Arises behaviour.actor := by
  cases h with
  | port unknown _ => exact .port unknown
  | actor _ invoked =>
      cases invoked with
      | miscounted _ _ count => exact .invalidProduction _ count
      | failed _ => exact failure_arises ..

/-- Once the tokens and the room are there, no operation on the ports fails. -/
theorem Fails.disabled {e : PortError} {after : S}
    (h : Fails behaviour action store state (.port e) after) :
    ¬Enabled behaviour.actor action state store := by
  generalize port : FiringError.port e = failure at h
  cases h with
  | port _ disabled => exact disabled
  | actor _ invoked =>
      cases invoked with
      | miscounted => cases port
      | failed => exact absurd port.symm (failure_ne_port _ _ e)

end Action

/-! ## Attempts and calls -/

namespace Behaviour

variable {S : Type} {behaviour : Behaviour S} {state : S} {store : PortStore}

/-- An attempt that does not fire leaves the ports as they were. -/
theorem tryFire_unfired (clean : store.Unpeeked behaviour.actor) {priority : Nat}
    {action : Action S} {after : S} {next : PortStore} {result : Except FiringError Attempt}
    (h : (action.tryFire behaviour priority state store).value = ⟨after, next, result⟩)
    (unfired : ∀ firing, result ≠ .ok (.fired firing)) : next = store := by
  rcases action.tryFire_cases clean h with
    ⟨_, _, same, _⟩ | ⟨_, fired, _, _⟩ | ⟨_, _, same, _⟩
  · exact same
  · exact absurd fired (unfired _)
  · exact same

/-- The error of an attempt. -/
theorem tryFire_fails (clean : store.Unpeeked behaviour.actor) {priority : Nat}
    {action : Action S} {after : S} {next : PortStore} {e : FiringError}
    (h : (action.tryFire behaviour priority state store).value = ⟨after, next, .error e⟩) :
    action.Fails behaviour store state e after := by
  rcases action.tryFire_cases clean h with
    ⟨_, skipped, _⟩ | ⟨_, fired, _⟩ | ⟨_, failed, _, fails⟩
  · cases skipped
  · cases fired
  · cases failed
    exact fails

/-- A selection that fails leaves the ports as they were. -/
theorem select_error (clean : store.Unpeeked behaviour.actor) {last : S} {final : PortStore}
    {e : FiringError} (h : (behaviour.select state store).value = ⟨last, final, .error e⟩) :
    final = store ∧ e.Arises behaviour.actor := by
  have selected := select_selected clean state
  rw [h] at selected
  cases selected with
  | failed _ _ fails => exact ⟨rfl, fails.arises⟩

/-- A call that fails leaves the ports as its last completed firing did. -/
theorem fire_error (clean : store.Unpeeked behaviour.actor) {limit : Nat} {last : S}
    {final : PortStore} {e : FiringError}
    (h : (behaviour.fire limit state store).value = some ⟨last, final, .error e⟩) :
    e.Arises behaviour.actor ∧ final.Unpeeked behaviour.actor ∧
      ∃ firings rest, Completed behaviour state store firings rest final ∧
        (behaviour.select rest final).value = ⟨last, final, .error e⟩ := by
  obtain ⟨firings, rest, end', completed, ⟨-, same⟩ | ⟨e', failed, same⟩⟩ := fire_completed h
  · cases same
  · cases same
    have kept := completed.unpeeked clean
    obtain ⟨rfl, arises⟩ := select_error kept failed
    exact ⟨arises, kept, firings, rest, completed, failed⟩

/-- On ports without a pending peek, an attempt that does not fire leaves the store as it was, and
a call that fails leaves it as its last completed firing did.  The errors are those of the actor,
and those of ports that do not exist; these come before anything is read. -/
theorem fire_all_or_nothing (behaviour : Behaviour S) (state : S) (store : PortStore)
    (clean : store.Unpeeked behaviour.actor) :
    (∀ (action : Action S) (priority : Nat) (after : S) (next : PortStore)
        (result : Except FiringError Attempt),
      (action.tryFire behaviour priority state store).value = ⟨after, next, result⟩ →
      (∀ firing, result ≠ .ok (.fired firing)) →
        next = store ∧
        (∀ e, result = .error e → e.Arises behaviour.actor) ∧
        ∀ e, result = .error (.port e) → ¬action.Enabled behaviour.actor state store) ∧
    ∀ (limit : Nat) (last : S) (final : PortStore) (e : FiringError),
      (behaviour.fire limit state store).value = some ⟨last, final, .error e⟩ →
        e.Arises behaviour.actor ∧ final.Unpeeked behaviour.actor ∧
        ∃ firings rest, Completed behaviour state store firings rest final ∧
          (behaviour.select rest final).value = ⟨last, final, .error e⟩ := by
  refine ⟨fun action priority after next result tried unfired => ⟨?_, ?_, ?_⟩, ?_⟩
  · exact tryFire_unfired clean tried unfired
  · rintro e rfl
    exact (tryFire_fails clean tried).arises
  · rintro e rfl
    exact (tryFire_fails clean tried).disabled
  · intro limit last final e failed
    exact fire_error clean failed

/-- The second token is no number, and stays queued after the first one was doubled. -/
theorem doubler_all_or_nothing : ∃ last final e,
    ((Actors.Doubler.type.behaviour ⟨"d"⟩).fire 2 (bareInstance ⟨"d"⟩ {})
      (relayPorts ⟨"d"⟩ [.data (.int 5), .data .null])).value = some ⟨last, final, .error e⟩ ∧
    final.tokensOn ⟨"d"⟩ .input "in" = [.data .null] ∧
    final.tokensOn ⟨"d"⟩ .output "out" = [.data (.int 10)] ∧
    e.Arises ⟨"d"⟩ ∧ final.Unpeeked ⟨"d"⟩ := by
  obtain ⟨last, final, e, failed, left, doubled⟩ : ∃ last final e,
      ((Actors.Doubler.type.behaviour ⟨"d"⟩).fire 2 (bareInstance ⟨"d"⟩ {})
        (relayPorts ⟨"d"⟩ [.data (.int 5), .data .null])).value = some ⟨last, final, .error e⟩ ∧
      final.tokensOn ⟨"d"⟩ .input "in" = [.data .null] ∧
      final.tokensOn ⟨"d"⟩ .output "out" = [.data (.int 10)] := ⟨_, _, _, rfl, rfl, rfl⟩
  obtain ⟨-, calls⟩ := fire_all_or_nothing (Actors.Doubler.type.behaviour ⟨"d"⟩)
    (bareInstance ⟨"d"⟩ {}) _ (unpeeked_relayPorts ⟨"d"⟩ [.data (.int 5), .data .null])
  obtain ⟨arises, kept, -⟩ := calls 2 last final e failed
  exact ⟨last, final, e, failed, left, doubled, arises, kept⟩

end Behaviour

end Dataflow
