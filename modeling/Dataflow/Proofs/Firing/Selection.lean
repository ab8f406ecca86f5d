import Dataflow.Actors.Flow
import Dataflow.Proofs.Firing.Attempt

/-!
# Which action fires

A call that fires an actor is a chain of selections.  Each starts at the top of the priority list
and stops at the first action that does not decline, with the state that the declining attempts
before it leave.

* `Action.HandsOn` — what an attempt that declines does to the state.
* `Behaviour.Selected` — the outcomes of a selection; `Behaviour.select_selected` says that there
  are no others.
* `Behaviour.Completed` — the completed firings of a call, `Behaviour.firings`.
  `Behaviour.fire_firings` cuts a call into these and the selection after the last of them, in which
  nothing fires.
* `Behaviour.fire_least_ready` — every firing in the report of a call is the one of the first
  action that is ready, and after the last of them no action is ready.
-/

namespace Dataflow

/-! ## Ports between attempts -/

/-- A firing leaves no pending peek behind. -/
theorem PortStore.Unpeeked.effect {S : Type} {store : PortStore} {actor : ActorRef}
    (clean : store.Unpeeked actor) (action : Action S) (values : List Value) :
    (action.effect actor values store).Unpeeked actor := by
  intro port queue found
  cases before : store.queue actor .input port with
  | error e =>
      rw [Action.queue_effect_error action values before] at found
      cases found
  | ok old =>
      rw [Action.queue_effect_input action values before] at found
      cases found
      exact clean port old before

namespace Action

variable {S : Type} {behaviour : Behaviour S} {priority : Nat} {action : Action S} {state : S}
  {store : PortStore}

/-! ## Declining and firing -/

/-- The attempt declines and leaves a state: the one that it was given, if the actor was not asked,
and otherwise the one that the actor declined with. -/
inductive HandsOn (behaviour : Behaviour S) (action : Action S) (store : PortStore) (state : S) :
    S → Prop
  | disabled : ¬Enabled behaviour.actor action state store →
      HandsOn behaviour action store state state
  | unaccepted : Enabled behaviour.actor action state store →
      action.response behaviour state (store.reads behaviour.actor action.inputs) = none →
      HandsOn behaviour action store state state
  | declined {after : S} : Enabled behaviour.actor action state store →
      action.response behaviour state (store.reads behaviour.actor action.inputs) =
        some (after, .ok (.fired false)) →
      HandsOn behaviour action store state after

/-- The actor answers the tokens that the action reads with the declared number of values. -/
structure Fires (behaviour : Behaviour S) (action : Action S) (store : PortStore) (state : S)
    (values : List Value) (after : S) : Prop
    extends Enabled behaviour.actor action state store where
  answer : ∃ result,
    action.response behaviour state (store.reads behaviour.actor action.inputs) =
      some (after, .ok result) ∧ result.values? = some values
  count : values.length = action.outputArity

/-- The actor fails on the tokens that the action reads, or answers them with another number of
values than declared, or the action asks for a port that does not exist. -/
inductive Fails (behaviour : Behaviour S) (action : Action S) (store : PortStore) (state : S) :
    FiringError → S → Prop
  | port {e : PortError} : e.Unknown behaviour.actor →
      ¬Enabled behaviour.actor action state store →
      Fails behaviour action store state (.port e) state
  | actor {e : FiringError} {after : S} : Enabled behaviour.actor action state store →
      Invoked behaviour action state (store.reads behaviour.actor action.inputs)
        (after, .error e) →
      Fails behaviour action store state e after

theorem HandsOn.not_ready {after : S} (h : HandsOn behaviour action store state after) :
    ¬Ready behaviour action state store := by
  intro ready
  obtain ⟨last, result, answer, willing⟩ := ready.willing
  cases h with
  | disabled disabled => exact disabled ready.toEnabled
  | unaccepted _ silent => rw [silent] at answer; cases answer
  | declined _ declined =>
      rw [declined] at answer
      cases answer
      exact willing rfl

theorem Fires.ready {values : List Value} {after : S}
    (h : Fires behaviour action store state values after) :
    Ready behaviour action state store := by
  obtain ⟨result, answer, produced⟩ := h.answer
  refine ⟨h.toEnabled, after, .ok result, answer, fun declined => ?_⟩
  cases declined
  cases produced

/-- An attempt hands the state on, fires or fails. -/
theorem tryFire_cases (clean : store.Unpeeked behaviour.actor) {after : S} {next : PortStore}
    {result : Except FiringError Attempt}
    (h : (action.tryFire behaviour priority state store).value = ⟨after, next, result⟩) :
    (∃ reason, result = .ok (.skipped reason) ∧ next = store ∧
      HandsOn behaviour action store state after) ∨
    (∃ values, result = .ok (.fired (action.firing behaviour.actor priority store)) ∧
      next = action.effect behaviour.actor values store ∧
      Fires behaviour action store state values after) ∨
    (∃ e, result = .error e ∧ next = store ∧ Fails behaviour action store state e after) := by
  have tried : Tried behaviour priority action state store _ := tryFire_tried clean
  rw [h] at tried
  cases tried with
  | closed shut =>
      refine Or.inl ⟨_, rfl, rfl, .disabled fun enabled => ?_⟩
      rw [enabled.guard] at shut
      cases shut
  | unknown unknown disabled => exact Or.inr (Or.inr ⟨_, rfl, rfl, .port unknown disabled⟩)
  | starved disabled => exact Or.inl ⟨_, rfl, rfl, .disabled disabled⟩
  | blocked disabled => exact Or.inl ⟨_, rfl, rfl, .disabled disabled⟩
  | refused enabled invoked =>
      cases invoked with
      | unaccepted answer => exact Or.inl ⟨_, rfl, rfl, .unaccepted enabled answer⟩
      | declined answer => exact Or.inl ⟨_, rfl, rfl, .declined enabled answer⟩
  | failed enabled invoked => exact Or.inr (Or.inr ⟨_, rfl, rfl, .actor enabled invoked⟩)
  | fired enabled invoked =>
      cases invoked with
      | produced answer produced count =>
          exact Or.inr (Or.inl ⟨_, rfl, rfl, enabled, ⟨_, answer, produced⟩, count⟩)

end Action

namespace Behaviour

variable {S : Type} {behaviour : Behaviour S} {state : S} {store : PortStore}

/-! ## Selections -/

/-- Actions that are not ready, one after the other: each is tried in the state that the one before
it hands on. -/
inductive PassedOver (behaviour : Behaviour S) (store : PortStore) : List (Action S) → S → S → Prop
  | nil (state : S) : PassedOver behaviour store [] state state
  | cons {action : Action S} {rest : List (Action S)} {state after last : S} :
      ¬action.Ready behaviour state store →
      action.HandsOn behaviour store state after →
      PassedOver behaviour store rest after last →
      PassedOver behaviour store (action :: rest) state last

/-- The outcomes of trying actions in turn, the first of which has the given priority. -/
inductive Selected (behaviour : Behaviour S) (store : PortStore) (priority : Nat)
    (actions : List (Action S)) (state : S) : Outcome S PortStore (Option Firing) → Prop
  /-- No action is ready. -/
  | rest {last : S} : PassedOver behaviour store actions state last →
      Selected behaviour store priority actions state ⟨last, store, .ok none⟩
  /-- The first ready action fires. -/
  | fired {passed later : List (Action S)} {action : Action S} {values : List Value}
      {before after : S} : actions = passed ++ action :: later →
      PassedOver behaviour store passed state before →
      action.Fires behaviour store before values after →
      Selected behaviour store priority actions state
        ⟨after, action.effect behaviour.actor values store,
          .ok (some (action.firing behaviour.actor (priority + passed.length) store))⟩
  /-- An attempt fails. -/
  | failed {passed later : List (Action S)} {action : Action S} {e : FiringError}
      {before after : S} : actions = passed ++ action :: later →
      PassedOver behaviour store passed state before →
      action.Fails behaviour store before e after →
      Selected behaviour store priority actions state ⟨after, store, .error e⟩

/-- One more action passed over before a selection. -/
theorem Selected.cons {priority : Nat} {action : Action S} {rest : List (Action S)} {after : S}
    {outcome : Outcome S PortStore (Option Firing)}
    (handed : action.HandsOn behaviour store state after)
    (h : Selected behaviour store (priority + 1) rest after outcome) :
    Selected behaviour store priority (action :: rest) state outcome := by
  have passed := handed.not_ready
  cases h with
  | rest others => exact .rest (.cons passed handed others)
  | @fired before _ chosen _ _ _ split others fires =>
      have place : priority + 1 + before.length = priority + (action :: before).length := by
        rw [List.length_cons]
        omega
      rw [place]
      exact .fired (by rw [split, List.cons_append]) (.cons passed handed others) fires
  | failed split others fails =>
      exact .failed (by rw [split, List.cons_append]) (.cons passed handed others) fails

section Scan

variable {action : Action S} {priority : Nat} {after : S} {next : PortStore}

theorem scan_of_skipped {reason : Skip} (rest : List (Action S))
    (tried : (action.tryFire behaviour priority state store).value =
      ⟨after, next, .ok (.skipped reason)⟩) :
    (behaviour.scan priority (action :: rest) state store).value =
      (behaviour.scan (priority + 1) rest after next).value := by
  simp [scan, tried]

theorem scan_of_fired {firing : Firing} (rest : List (Action S))
    (tried : (action.tryFire behaviour priority state store).value =
      ⟨after, next, .ok (.fired firing)⟩) :
    (behaviour.scan priority (action :: rest) state store).value =
      ⟨after, next, .ok (some firing)⟩ := by
  simp [scan, tried]

theorem scan_of_failed {e : FiringError} (rest : List (Action S))
    (tried : (action.tryFire behaviour priority state store).value = ⟨after, next, .error e⟩) :
    (behaviour.scan priority (action :: rest) state store).value = ⟨after, next, .error e⟩ := by
  simp [scan, tried]

end Scan

theorem scan_selected (clean : store.Unpeeked behaviour.actor) (priority : Nat)
    (actions : List (Action S)) (state : S) :
    Selected behaviour store priority actions state
      (behaviour.scan priority actions state store).value := by
  induction actions generalizing priority state with
  | nil => exact .rest (.nil state)
  | cons action rest ih =>
      cases tried : (action.tryFire behaviour priority state store).value with
      | mk after next result =>
          rcases action.tryFire_cases clean tried with
            ⟨reason, rfl, rfl, handed⟩ | ⟨values, rfl, rfl, fires⟩ | ⟨e, rfl, rfl, fails⟩
          · rw [scan_of_skipped rest tried]
            exact .cons handed (ih (priority + 1) after)
          · rw [scan_of_fired rest tried]
            exact .fired (List.nil_append _).symm (.nil state) fires
          · rw [scan_of_failed rest tried]
            exact .failed (List.nil_append _).symm (.nil state) fails

/-- These are all outcomes of a selection on ports without a pending peek. -/
theorem select_selected (clean : store.Unpeeked behaviour.actor) (state : S) :
    Selected behaviour store 0 behaviour.actions state (behaviour.select state store).value :=
  scan_selected clean 0 behaviour.actions state

/-! ## Calls -/

/-- The completed firings of a call, one selection after the other. -/
inductive Completed (behaviour : Behaviour S) :
    S → PortStore → List Firing → S → PortStore → Prop
  | nil (state : S) (store : PortStore) : Completed behaviour state store [] state store
  | cons {state after last : S} {store next final : PortStore} {firing : Firing}
      {firings : List Firing} :
      (behaviour.select state store).value = ⟨after, next, .ok (some firing)⟩ →
      Completed behaviour after next firings last final →
      Completed behaviour state store (firing :: firings) last final

/-- A selection without an error keeps the ports without a pending peek. -/
theorem unpeeked_select (clean : store.Unpeeked behaviour.actor) (state : S) :
    (behaviour.select state store).value.ports.Unpeeked behaviour.actor := by
  have selected := select_selected clean state
  generalize (behaviour.select state store).value = outcome at selected ⊢
  cases selected with
  | rest => exact clean
  | fired => exact clean.effect _ _
  | failed => exact clean

theorem Completed.unpeeked {firings : List Firing} {last : S} {final : PortStore}
    (h : Completed behaviour state store firings last final)
    (clean : store.Unpeeked behaviour.actor) : final.Unpeeked behaviour.actor := by
  induction h with
  | nil => exact clean
  | @cons start _ _ _ _ _ _ _ selected _ ih =>
      refine ih ?_
      have kept := unpeeked_select clean start
      rwa [selected] at kept

theorem firings_foldl_record (report : FireReport) (firings : List Firing) :
    (firings.foldl FireReport.record report).firings = report.firings ++ firings := by
  induction firings generalizing report with
  | nil => simp
  | cons firing rest ih => simp [ih, FireReport.record]

/-- The firings that a call completes, whatever it ends in. -/
def firings (behaviour : Behaviour S) : Nat → S → PortStore → List Firing
  | 0, _, _ => []
  | limit + 1, state, store =>
    match (behaviour.select state store).value with
    | ⟨after, next, .ok (some firing)⟩ => firing :: behaviour.firings limit after next
    | _ => []

theorem fireFrom_firings {limit : Nat} {report : FireReport} {last : S} {final : PortStore}
    {result : Except FiringError FireReport}
    (h : (behaviour.fireFrom limit report state store).value = some ⟨last, final, result⟩) :
    ∃ rest end', Completed behaviour state store (behaviour.firings limit state store) rest end' ∧
      (((behaviour.select rest end').value = ⟨last, final, .ok none⟩ ∧
          result = .ok ((behaviour.firings limit state store).foldl FireReport.record report)) ∨
        ∃ e, (behaviour.select rest end').value = ⟨last, final, .error e⟩ ∧ result = .error e) := by
  induction limit generalizing report state store with
  | zero => cases h
  | succ limit ih =>
      obtain ⟨after, next, e | _ | firing, selected⟩ : ∃ after next answer,
          (behaviour.select state store).value = ⟨after, next, answer⟩ := ⟨_, _, _, rfl⟩
      · simp only [fireFrom, Logged.value_bind, selected] at h
        cases h
        simp only [firings, selected]
        exact ⟨state, store, .nil state store, Or.inr ⟨e, selected, rfl⟩⟩
      · simp only [fireFrom, Logged.value_bind, selected] at h
        cases h
        simp only [firings, selected]
        exact ⟨state, store, .nil state store, Or.inl ⟨selected, rfl⟩⟩
      · simp only [fireFrom, Logged.value_bind, selected] at h
        obtain ⟨rest, end', completed, outcome⟩ := ih h
        simp only [firings, selected]
        exact ⟨rest, end', .cons selected completed, outcome⟩

/-- A call is the firings that it completes and one more selection, in which nothing fires or an
attempt fails. -/
theorem fire_firings {limit : Nat} {last : S} {final : PortStore}
    {result : Except FiringError FireReport}
    (h : (behaviour.fire limit state store).value = some ⟨last, final, result⟩) :
    ∃ rest end', Completed behaviour state store (behaviour.firings limit state store) rest end' ∧
      (((behaviour.select rest end').value = ⟨last, final, .ok none⟩ ∧
          result = .ok ((behaviour.firings limit state store).foldl FireReport.record {})) ∨
        ∃ e, (behaviour.select rest end').value = ⟨last, final, .error e⟩ ∧ result = .error e) :=
  fireFrom_firings h

/-- A call is some completed firings and one more selection. -/
theorem fire_completed {limit : Nat} {last : S} {final : PortStore}
    {result : Except FiringError FireReport}
    (h : (behaviour.fire limit state store).value = some ⟨last, final, result⟩) :
    ∃ firings rest end', Completed behaviour state store firings rest end' ∧
      (((behaviour.select rest end').value = ⟨last, final, .ok none⟩ ∧
          result = .ok (firings.foldl FireReport.record {})) ∨
        ∃ e, (behaviour.select rest end').value = ⟨last, final, .error e⟩ ∧ result = .error e) :=
  ⟨behaviour.firings limit state store, fire_firings h⟩

/-! ## The first ready action -/

/-- A run of firings, each of the first action of the priority list that is ready, until no action
is ready. -/
inductive LeastReady (behaviour : Behaviour S) :
    S → PortStore → List Firing → S → PortStore → Prop
  | rest {state last : S} {store : PortStore} :
      PassedOver behaviour store behaviour.actions state last →
      LeastReady behaviour state store [] last store
  | fire {state before after last : S} {store final : PortStore}
      {passed later : List (Action S)} {action : Action S} {values : List Value}
      {firings : List Firing} :
      behaviour.actions = passed ++ action :: later →
      PassedOver behaviour store passed state before →
      action.Ready behaviour before store →
      action.Fires behaviour store before values after →
      LeastReady behaviour after (action.effect behaviour.actor values store) firings last final →
      LeastReady behaviour state store
        (action.firing behaviour.actor passed.length store :: firings) last final

theorem Completed.leastReady {firings : List Firing} {rest last : S} {end' final : PortStore}
    (h : Completed behaviour state store firings rest end')
    (clean : store.Unpeeked behaviour.actor)
    (settled : (behaviour.select rest end').value = ⟨last, final, .ok none⟩) :
    LeastReady behaviour state store firings last final := by
  induction h with
  | nil rest end' =>
      have selected := select_selected clean rest
      rw [settled] at selected
      cases selected with
      | rest passed => exact .rest passed
  | @cons start after rest store next end' firing firings chosen _ ih =>
      have selected := select_selected clean start
      have kept := unpeeked_select clean start
      rw [chosen] at selected kept
      cases selected with
      | fired split passed fires =>
          rw [Nat.zero_add]
          exact .fire split passed fires.ready fires (ih kept settled)

/-- Whenever a call succeeds, each firing of its report is the one of the first action of the
priority list that is ready, and after the last of them no action is ready. -/
theorem fire_least_ready (clean : store.Unpeeked behaviour.actor) {limit : Nat} {last : S}
    {final : PortStore} {report : FireReport}
    (h : (behaviour.fire limit state store).value = some ⟨last, final, .ok report⟩) :
    LeastReady behaviour state store report.firings last final := by
  obtain ⟨firings, rest, end', completed, ⟨settled, same⟩ | ⟨e, -, failed⟩⟩ := fire_completed h
  · cases same
    rw [firings_foldl_record, List.nil_append]
    exact completed.leastReady clean settled
  · cases failed

/-- The ports of an actor that reads `in`, which holds the given tokens, and writes `out`. -/
def relayPorts (actor : ActorRef) (tokens : List Token) : PortStore where
  actors :=
    ⟨[(actor.id,
      { inputs := ⟨[("in", { capacity := .unbounded, tokens })], List.pairwise_singleton _ _⟩
        outputs := ⟨[("out", Queue.new .unbounded)], List.pairwise_singleton _ _⟩ })],
      List.pairwise_singleton _ _⟩

theorem queue_relayPorts {actor : ActorRef} {tokens : List Token} {direction : Direction}
    {port : String} {queue : Queue}
    (found : (relayPorts actor tokens).queue actor direction port = .ok queue) :
    queue = { capacity := .unbounded, tokens := if direction = .input then tokens else [] } := by
  obtain ⟨ports, known, found⟩ := PortStore.queue_eq_ok_iff.1 found
  simp only [relayPorts, PortStore.ports?, KeyMap.get?, Entries.find?, if_true] at known
  cases known
  cases direction with
  | input =>
      simp only [PortSet.side, KeyMap.get?, Entries.find?] at found
      split at found
      · cases found
        rfl
      · cases found
  | output =>
      simp only [PortSet.side, KeyMap.get?, Entries.find?] at found
      split at found
      · cases found
        rfl
      · cases found

theorem unpeeked_relayPorts (actor : ActorRef) (tokens : List Token) :
    (relayPorts actor tokens).Unpeeked actor := by
  intro port queue found
  rw [queue_relayPorts found]

/-- An actor that has opened no capability. -/
def bareInstance {σ : Type} (actor : ActorRef) (model : σ) : Instance Unit σ where
  model
  context := { table := { actor }, registry := {}, world := () }

/-- Consuming the one token arms `prime`, which the next scan finds above `fallback`. -/
theorem rearming_least_ready : ∃ last final report,
    ((Actors.Rearming.type.behaviour ⟨"r"⟩).fire 3 (bareInstance ⟨"r"⟩ {})
      (relayPorts ⟨"r"⟩ [.data (.int 5)])).value = some ⟨last, final, .ok report⟩ ∧
    report.actions = ["consume", "prime"] ∧
    LeastReady (Actors.Rearming.type.behaviour ⟨"r"⟩) (bareInstance ⟨"r"⟩ {})
      (relayPorts ⟨"r"⟩ [.data (.int 5)]) report.firings last final := by
  obtain ⟨last, final, report, ran, names⟩ : ∃ last final report,
      ((Actors.Rearming.type.behaviour ⟨"r"⟩).fire 3 (bareInstance ⟨"r"⟩ {})
        (relayPorts ⟨"r"⟩ [.data (.int 5)])).value = some ⟨last, final, .ok report⟩ ∧
      report.actions = ["consume", "prime"] := ⟨_, _, _, rfl, rfl⟩
  exact ⟨last, final, report, ran, names, fire_least_ready (unpeeked_relayPorts _ _) ran⟩

end Behaviour

end Dataflow
