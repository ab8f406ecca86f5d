import Dataflow.Proofs.Firing.Termination

/-!
# Actors with a single action

A call of an actor that has one action, which takes tokens, is a row of firings of that action.  If
the ports of the action exist and the actor answers what it reads as it should, then the call
succeeds, and it goes on until the action does not fire any more.

* `Action.Known` — the ports of an action exist; then an attempt fails only through the actor
  (`Action.tryFire_error`).
* `Action.Honors`, `Action.Dependable` — answers that are neither failures nor of the wrong length,
  and declines that leave the actor as it was.
* `Action.Firings` — firings in a row.  Where they lead if nothing fires in the end depends on
  nothing but their start (`Action.Firings.unique`).
* `Behaviour.Sustains`, `Behaviour.Sustains.call` — a property that makes an attempt succeed and
  that firings keep makes a whole call succeed, and holds after it.
-/

namespace Dataflow

open PortCount

/-! ## Ports that exist -/

namespace Action

variable {S : Type} {behaviour : Behaviour S} {action : Action S} {state after last : S}
  {store next final : PortStore} {actor : ActorRef}

/-- All ports that the action declares exist. -/
structure Known (actor : ActorRef) (action : Action S) (store : PortStore) : Prop where
  inputs : ∀ input ∈ action.inputs, ∃ queue, store.queue actor .input input.port = .ok queue
  outputs : ∀ output ∈ action.outputs, ∃ queue, store.queue actor .output output.port = .ok queue

/-- Changes of queues leave the ports where they are. -/
theorem Known.mapSide (known : action.Known actor store) {other : ActorRef} {direction : Direction}
    {f : String → Queue → Queue} : action.Known actor (store.mapSide other direction f) where
  inputs input declared := by
    obtain ⟨queue, found⟩ := known.inputs input declared
    rw [PortStore.queue_mapSide, found]
    split <;> exact ⟨_, rfl⟩
  outputs output declared := by
    obtain ⟨queue, found⟩ := known.outputs output declared
    rw [PortStore.queue_mapSide, found]
    split <;> exact ⟨_, rfl⟩

/-- It is only the actor's own ports that count. -/
theorem Known.congr (known : action.Known actor store)
    (same : store.ports? actor = next.ports? actor) : action.Known actor next where
  inputs input declared := by
    rw [← PortStore.queue_congr same]
    exact known.inputs input declared
  outputs output declared := by
    rw [← PortStore.queue_congr same]
    exact known.outputs output declared

/-- Asking for the totals of declarations finds all ports that exist. -/
theorem firstRefused_known (ask : PortStore → String → Nat → PortStore × Except PortError Bool)
    (direction : Direction) (enough : Queue → Nat → Bool)
    (pure : ∀ port count,
      ask store port count = (store, (store.queue actor direction port).map (enough · count)))
    {declared : List PortCount}
    (known : ∀ entry ∈ declared, ∃ queue, store.queue actor direction entry.port = .ok queue)
    (e : PortError) : firstRefused ask (totals declared) store ≠ (store, .error e) := by
  rcases firstRefused_cases ask _ pure (totals declared) with
    ⟨total, member, e', asked, -⟩ | ⟨total, member, -, h⟩ | ⟨all, h⟩
  · obtain ⟨entry, listed, same⟩ := exists_declaration member
    obtain ⟨queue, found⟩ := known entry listed
    rw [← same, found] at asked
    cases asked
  · rw [h]
    nofun
  · rw [h]
    nofun

/-- If its ports exist, an attempt fails only because the actor fails on what the action reads, or
produces another number of values than declared. -/
theorem tryFire_error {priority : Nat} {e : FiringError} (clean : store.Unpeeked behaviour.actor)
    (known : action.Known behaviour.actor store)
    (h : (action.tryFire behaviour priority state store).value = ⟨after, next, .error e⟩) :
    Enabled behaviour.actor action state store ∧
      Invoked behaviour action state (store.reads behaviour.actor action.inputs)
        (after, .error e) := by
  by_cases guard : action.open? state = true
  · have tokens : Checked store behaviour.actor _ _ :=
      totals_checked (PortAccess.tokensAvailable · behaviour.actor) .input
        Queue.tokensAvailable (fun _ _ => rfl) action.inputs
    have room : Checked store behaviour.actor _ _ :=
      totals_checked (PortAccess.slotsAvailable · behaviour.actor) .output
        Queue.slotsAvailable (fun _ _ => rfl) action.outputs
    have inputs := firstRefused_known (PortAccess.tokensAvailable · behaviour.actor) .input
      Queue.tokensAvailable (fun _ _ => rfl) known.inputs
    have outputs := firstRefused_known (PortAccess.slotsAvailable · behaviour.actor) .output
      Queue.slotsAvailable (fun _ _ => rfl) known.outputs
    rw [PortStore.meets_iff_holds clean] at tokens
    simp only [tryFire, if_pos guard] at h
    generalize firstRefused (PortAccess.tokensAvailable · behaviour.actor)
      (totals action.inputs) store = found at tokens inputs h
    cases tokens with
    | missing => exact absurd rfl (inputs _)
    | refused => cases h
    | passed holds =>
        simp only at h
        generalize firstRefused (PortAccess.slotsAvailable · behaviour.actor)
          (totals action.outputs) store = free at room outputs h
        cases room with
        | missing => exact absurd rfl (outputs _)
        | refused => cases h
        | passed free =>
            have enabled : Enabled behaviour.actor action state store := ⟨guard, holds, free⟩
            have tried : Tried behaviour priority action state store _ :=
              proceed_tried clean enabled
            simp only at h
            rw [h] at tried
            cases tried with
            | unknown _ disabled => exact absurd enabled disabled
            | failed enabled invoked => exact ⟨enabled, invoked⟩
  · simp only [tryFire, if_neg guard] at h
    cases h

/-! ## Answers -/

/-- The actor neither fails nor keeps the wrong count of values, and if it declines it stays as it
is. -/
def Honors (action : Action S) (state : S) (answered : S × Except Failure ActionResult) : Prop :=
  ∃ result, answered.2 = .ok result ∧ (result = .fired false → answered.1 = state) ∧
    ∀ values, result.values? = some values → values.length = action.outputArity

/-- If the actor answers the tokens, it does so as it should. -/
def Dependable (behaviour : Behaviour S) (action : Action S) (state : S) (tokens : List Token) :
    Prop :=
  ∀ answered, action.response behaviour state tokens = some answered →
    action.Honors state answered

theorem Dependable.not_error {tokens : List Token}
    (dependable : action.Dependable behaviour state tokens) {e : FiringError} :
    ¬Invoked behaviour action state tokens (after, .error e) := by
  intro invoked
  cases invoked with
  | miscounted answer produced count =>
      obtain ⟨result, same, -, counted⟩ := dependable _ answer
      cases same
      exact count (counted _ produced)
  | failed answer =>
      obtain ⟨result, same, -⟩ := dependable _ answer
      cases same

/-- An attempt that declines leaves a dependable actor as it was. -/
theorem HandsOn.same (handed : HandsOn behaviour action store state after)
    (dependable : Enabled behaviour.actor action state store →
      action.Dependable behaviour state (store.reads behaviour.actor action.inputs)) :
    after = state := by
  cases handed with
  | disabled => rfl
  | unaccepted => rfl
  | declined enabled declined =>
      obtain ⟨result, same, kept, -⟩ := dependable enabled _ declined
      cases same
      exact kept rfl

/-! ## Firing or failing -/

/-- A firing is determined by the state and the ports. -/
theorem Fires.unique {values values' : List Value} {after' : S}
    (h : Fires behaviour action store state values after)
    (h' : Fires behaviour action store state values' after') :
    values = values' ∧ after = after' := by
  obtain ⟨result, answer, produced⟩ := h.answer
  obtain ⟨result', answer', produced'⟩ := h'.answer
  rw [answer] at answer'
  cases answer'
  rw [produced] at produced'
  cases produced'
  exact ⟨rfl, rfl⟩

theorem Fails.not_fires {e : FiringError} {values : List Value} {after' : S}
    (fails : Fails behaviour action store state e after) :
    ¬Fires behaviour action store state values after' := by
  intro fires
  obtain ⟨result, answer, produced⟩ := fires.answer
  cases fails with
  | port _ disabled => exact disabled fires.toEnabled
  | actor _ invoked =>
      cases invoked with
      | miscounted answer' produced' count =>
          rw [answer'] at answer
          cases answer
          rw [produced'] at produced
          cases produced
          exact count fires.count
      | failed failed =>
          rw [failed] at answer
          cases answer

/-! ## What an attempt comes to -/

/-- If its ports exist and it is not enabled, an attempt changes nothing and is no failure. -/
theorem tryFire_of_disabled (priority : Nat) (clean : store.Unpeeked behaviour.actor)
    (known : action.Known behaviour.actor store)
    (disabled : ¬Enabled behaviour.actor action state store) :
    ∃ reason, (action.tryFire behaviour priority state store).value =
      ⟨state, store, .ok (.skipped reason)⟩ := by
  cases tried : (action.tryFire behaviour priority state store).value with
  | mk after next result =>
      rcases action.tryFire_cases clean tried with
        ⟨reason, rfl, rfl, handed⟩ | ⟨values, -, -, fires⟩ | ⟨e, rfl, -, -⟩
      · cases handed with
        | disabled => exact ⟨reason, rfl⟩
        | unaccepted enabled _ => exact absurd enabled disabled
        | declined enabled _ => exact absurd enabled disabled
      · exact absurd fires.toEnabled disabled
      · exact absurd (tryFire_error clean known tried).1 disabled

/-- An action that fires does so at once. -/
theorem tryFire_of_fires (priority : Nat) (clean : store.Unpeeked behaviour.actor)
    {values : List Value} (fires : Fires behaviour action store state values after) :
    (action.tryFire behaviour priority state store).value =
      ⟨after, action.effect behaviour.actor values store,
        .ok (.fired (action.firing behaviour.actor priority store))⟩ := by
  cases tried : (action.tryFire behaviour priority state store).value with
  | mk last next result =>
      rcases action.tryFire_cases clean tried with
        ⟨_, -, -, handed⟩ | ⟨_, rfl, rfl, fires'⟩ | ⟨e, -, -, fails⟩
      · exact absurd fires.ready handed.not_ready
      · obtain ⟨rfl, rfl⟩ := fires.unique fires'
        rfl
      · exact absurd fires fails.not_fires

/-- If the actor fails on what an enabled action reads, then so does the attempt. -/
theorem tryFire_of_failure (priority : Nat) (clean : store.Unpeeked behaviour.actor)
    (enabled : Enabled behaviour.actor action state store) {source : Failure}
    (answer : action.response behaviour state (store.reads behaviour.actor action.inputs) =
      some (after, .error source)) :
    (action.tryFire behaviour priority state store).value =
      ⟨after, store, .error (action.failure behaviour
        (store.reads behaviour.actor action.inputs) source)⟩ := by
  cases tried : (action.tryFire behaviour priority state store).value with
  | mk last next result =>
      rcases action.tryFire_cases clean tried with
        ⟨reason, rfl, rfl, handed⟩ | ⟨values, -, -, fires⟩ | ⟨e, rfl, rfl, fails⟩
      · cases handed with
        | disabled disabled => exact absurd enabled disabled
        | unaccepted _ silent =>
            rw [silent] at answer
            cases answer
        | declined _ declined =>
            rw [declined] at answer
            cases answer
      · obtain ⟨result, answer', -⟩ := fires.answer
        rw [answer'] at answer
        cases answer
      · cases fails with
        | port _ disabled => exact absurd enabled disabled
        | actor _ invoked =>
            cases invoked with
            | miscounted answer' _ _ =>
                rw [answer'] at answer
                cases answer
            | failed answer' =>
                rw [answer'] at answer
                cases answer
                rfl

end Action

/-- Actions whose ports exist and none of which is enabled are passed over. -/
theorem Behaviour.scan_of_disabled {S : Type} {behaviour : Behaviour S} {state : S}
    {store : PortStore} (clean : store.Unpeeked behaviour.actor) (priority : Nat)
    {actions : List (Action S)}
    (known : ∀ action ∈ actions, action.Known behaviour.actor store)
    (disabled : ∀ action ∈ actions, ¬action.Enabled behaviour.actor state store) :
    (behaviour.scan priority actions state store).value = ⟨state, store, .ok none⟩ := by
  induction actions generalizing priority with
  | nil => rfl
  | cons action rest ih =>
      obtain ⟨reason, tried⟩ := action.tryFire_of_disabled priority clean
        (known action (List.mem_cons_self ..)) (disabled action (List.mem_cons_self ..))
      rw [scan_of_skipped rest tried]
      exact ih (priority + 1) (fun other member => known other (List.mem_cons_of_mem _ member))
        fun other member => disabled other (List.mem_cons_of_mem _ member)

namespace Action

variable {S : Type} {behaviour : Behaviour S} {action : Action S} {state after last : S}
  {store next final : PortStore}

/-! ## Firings in a row -/

/-- The action does not fire. -/
def Rests (behaviour : Behaviour S) (action : Action S) (state : S) (store : PortStore) : Prop :=
  ∀ values after, ¬Fires behaviour action store state values after

/-- Firings in a row, each with the values that it produces. -/
inductive Firings (behaviour : Behaviour S) (action : Action S) :
    S → PortStore → List (List Value) → S → PortStore → Prop
  | nil (state : S) (store : PortStore) : Firings behaviour action state store [] state store
  | cons {state after last : S} {store final : PortStore} {values : List Value}
      {others : List (List Value)} : Fires behaviour action store state values after →
      Firings behaviour action after (action.effect behaviour.actor values store) others last
        final →
      Firings behaviour action state store (values :: others) last final

theorem Firings.trans {produced others : List (List Value)}
    (h : Firings behaviour action state store produced after next)
    (h' : Firings behaviour action after next others last final) :
    Firings behaviour action state store (produced ++ others) last final := by
  induction h with
  | nil => exact h'
  | cons fires _ ih => exact .cons fires (ih h')

/-- Firings that go on until the action rests come to one and the same end. -/
theorem Firings.unique {produced produced' : List (List Value)} {last' : S} {final' : PortStore}
    (h : Firings behaviour action state store produced last final)
    (rests : Rests behaviour action last final)
    (h' : Firings behaviour action state store produced' last' final')
    (rests' : Rests behaviour action last' final') :
    produced = produced' ∧ last = last' ∧ final = final' := by
  induction h generalizing produced' with
  | nil =>
      cases h' with
      | nil => exact ⟨rfl, rfl, rfl⟩
      | cons fires _ => exact absurd fires (rests _ _)
  | cons fires _ ih =>
      cases h' with
      | nil => exact absurd fires (rests' _ _)
      | cons fires' others =>
          obtain ⟨rfl, rfl⟩ := fires.unique fires'
          obtain ⟨rfl, rfl, rfl⟩ := ih rests others
          exact ⟨rfl, rfl, rfl⟩

/-- What a firing reports, apart from where it happened. -/
def outline (action : Action S) : String × Nat × Nat :=
  (action.name, size action.inputs, action.outputArity)

end Action

/-- The name of the action, and the numbers of tokens consumed and produced. -/
def Firing.outline (firing : Firing) : String × Nat × Nat :=
  (firing.action, firing.consumed, firing.produced)

/-! ## Calls -/

namespace Behaviour

variable {S : Type} {behaviour : Behaviour S} {action : Action S} {state : S}
  {store : PortStore} {holds : S → PortStore → Prop}

/-- A call with a limit that is high enough: `Behaviour.fire_terminates` says that a higher one
would change nothing. -/
def call (behaviour : Behaviour S) (state : S) (store : PortStore) :
    Option (Outcome S PortStore FireReport) :=
  (behaviour.fire (store.budget behaviour.actor + 1) state store).value

/-- A property of state and ports under which an attempt to fire the one action of the actor
succeeds, and which firings keep. -/
structure Sustains (behaviour : Behaviour S) (action : Action S)
    (holds : S → PortStore → Prop) : Prop where
  only : behaviour.actions = [action]
  takes : 0 < size action.inputs
  clean : ∀ {state store}, holds state store → store.Unpeeked behaviour.actor
  known : ∀ {state store}, holds state store → action.Known behaviour.actor store
  dependable : ∀ {state store}, holds state store →
    action.Enabled behaviour.actor state store →
    action.Dependable behaviour state (store.reads behaviour.actor action.inputs)
  fires : ∀ {state store values after}, holds state store →
    action.Fires behaviour store state values after →
      holds after (action.effect behaviour.actor values store)

/-- A selection fires the action, or the action rests and nothing changes. -/
theorem Sustains.select (sustains : behaviour.Sustains action holds) (h : holds state store) :
    ((behaviour.select state store).value = ⟨state, store, .ok none⟩ ∧
      action.Rests behaviour state store) ∨
    ∃ values after, action.Fires behaviour store state values after ∧
      (behaviour.select state store).value =
        ⟨after, action.effect behaviour.actor values store,
          .ok (some (action.firing behaviour.actor 0 store))⟩ := by
  cases tried : (action.tryFire behaviour 0 state store).value with
  | mk after next result =>
      rcases action.tryFire_cases (sustains.clean h) tried with
        ⟨reason, rfl, rfl, handed⟩ | ⟨values, rfl, rfl, fires⟩ | ⟨e, rfl, rfl, -⟩
      · obtain rfl := handed.same (sustains.dependable h)
        refine Or.inl ⟨?_, fun values last fires => handed.not_ready fires.ready⟩
        simp [Behaviour.select, sustains.only, scan, tried]
      · refine Or.inr ⟨values, after, fires, ?_⟩
        simp [Behaviour.select, sustains.only, scan, tried]
      · obtain ⟨enabled, invoked⟩ :=
          Action.tryFire_error (sustains.clean h) (sustains.known h) tried
        exact absurd invoked (sustains.dependable h enabled).not_error

theorem Sustains.fireFrom (sustains : behaviour.Sustains action holds) (h : holds state store)
    {limit : Nat} (enough : store.budget behaviour.actor < limit) (report : FireReport) :
    ∃ (produced : List (List Value)) (firings : List Firing) (last : S) (final : PortStore),
      (behaviour.fireFrom limit report state store).value =
        some ⟨last, final, .ok (firings.foldl FireReport.record report)⟩ ∧
      action.Firings behaviour state store produced last final ∧
      action.Rests behaviour last final ∧ holds last final ∧
      firings.map Firing.outline = List.replicate produced.length action.outline := by
  induction limit generalizing report state store with
  | zero => exact absurd enough (Nat.not_lt_zero _)
  | succ limit ih =>
      rcases sustains.select h with ⟨selected, rests⟩ | ⟨values, after, fires, selected⟩
      · refine ⟨[], [], state, store, ?_, .nil state store, rests, h, rfl⟩
        simp only [Behaviour.fireFrom, Logged.value_bind, selected]
        rfl
      · have lower := fires.budget_lt (Or.inl sustains.takes)
        obtain ⟨produced, firings, last, final, ran, others, rests, kept, outlines⟩ :=
          ih (sustains.fires h fires) (by omega)
            (report.record (action.firing behaviour.actor 0 store))
        refine ⟨values :: produced, action.firing behaviour.actor 0 store :: firings, last, final,
          ?_, .cons fires others, rests, kept, ?_⟩
        · simpa only [Behaviour.fireFrom, Logged.value_bind, selected, List.foldl_cons] using ran
        · rw [List.map_cons, outlines]
          rfl

/-- Where the property holds, a call succeeds, and the property holds after it.  The call is made
up of firings of the one action, until it rests. -/
theorem Sustains.call (sustains : behaviour.Sustains action holds) (h : holds state store) :
    ∃ produced last final report, behaviour.call state store = some ⟨last, final, .ok report⟩ ∧
      action.Firings behaviour state store produced last final ∧
      action.Rests behaviour last final ∧ holds last final ∧
      report.firings.map Firing.outline = List.replicate produced.length action.outline := by
  obtain ⟨produced, firings, last, final, ran, fired, rests, kept, outlines⟩ :=
    sustains.fireFrom h (Nat.lt_succ_self _) {}
  refine ⟨produced, last, final, _, ran, fired, rests, kept, ?_⟩
  rw [firings_foldl_record, List.nil_append, outlines]

end Behaviour

end Dataflow
