import Dataflow.Action.Fire
import Dataflow.Proofs.Firing.Attempt

/-!
# The same actor in two places

An actor that is fired in two states which its guards and bodies cannot tell apart, on two kinds of
ports that answer it alike, does the same in both places: the results are equal, and states and
ports are again as they were before, indistinguishable.

* `Outcome.Alike` — outcomes that correspond: related states, related ports, equal results.
* `Behaviour.Respects` — no guard, body or handler of the actor tells related states apart.
* `PortAccess.Alike` — ports that answer one actor alike.
* `Behaviour.fire_alike` — a whole call corresponds if this holds.
* `PortStore.alike_ports?` — stores in which the actor has the same ports answer it alike,
  whatever else is in them.
-/

namespace Dataflow

/-! ## Correspondence -/

/-- The same answer, and things left behind that are related. -/
def Alike {A B α : Type} (related : A → B → Prop) (first : A × α) (second : B × α) : Prop :=
  related first.1 second.1 ∧ first.2 = second.2

/-- Related states, related ports and the same result. -/
structure Outcome.Alike {S T P Q α : Type} (states : S → T → Prop) (places : P → Q → Prop)
    (first : Outcome S P α) (second : Outcome T Q α) : Prop where
  state : states first.state second.state
  ports : places first.ports second.ports
  result : first.result = second.result

/-- Operations for one actor that answer alike on related ports and leave related ports behind. -/
structure PortAccess.Alike {P Q : Type} [PortAccess P] [PortAccess Q] (actor : ActorRef)
    (places : P → Q → Prop) : Prop where
  tokensAvailable : ∀ {p q}, places p q → ∀ port count,
    Dataflow.Alike places (PortAccess.tokensAvailable p actor port count)
      (PortAccess.tokensAvailable q actor port count)
  slotsAvailable : ∀ {p q}, places p q → ∀ port count,
    Dataflow.Alike places (PortAccess.slotsAvailable p actor port count)
      (PortAccess.slotsAvailable q actor port count)
  peek : ∀ {p q}, places p q → ∀ port count,
    Dataflow.Alike places (PortAccess.peek p actor port count)
      (PortAccess.peek q actor port count)
  commit : ∀ {p q}, places p q → ∀ names,
    Dataflow.Alike places (PortAccess.commit p actor names) (PortAccess.commit q actor names)
  cancel : ∀ {p q}, places p q → ∀ names,
    Dataflow.Alike places (PortAccess.cancel p actor names) (PortAccess.cancel q actor names)
  write : ∀ {p q}, places p q → ∀ port token,
    Dataflow.Alike places (PortAccess.write p actor port token)
      (PortAccess.write q actor port token)

/-- Neither the guards nor the body of the action tell related states apart. -/
structure Action.Respects {S : Type} (states : S → S → Prop) (action : Action S) : Prop where
  guard : ∀ {s t}, states s t → action.open? s = action.open? t
  inputGuard : ∀ {s t}, states s t → ∀ values, action.accepts s values = action.accepts t values
  body : ∀ {s t}, states s t → ∀ values,
    Alike states (action.body s values).value (action.body t values).value

/-- No action of the actor tells related states apart, nor does its handler. -/
structure Behaviour.Respects {S : Type} (states : S → S → Prop) (behaviour : Behaviour S) :
    Prop where
  actions : ∀ action ∈ behaviour.actions, action.Respects states
  onException : ∀ {s t}, states s t → ∀ name reason,
    Alike states (behaviour.onException s name reason).value
      (behaviour.onException t name reason).value

/-! ## Attempts -/

namespace Action

variable {S P Q : Type} [PortAccess P] [PortAccess Q] {states : S → S → Prop}
  {places : P → Q → Prop} {behaviour : Behaviour S} {action : Action S} {s t : S} {p : P} {q : Q}

omit [PortAccess P] [PortAccess Q] in
theorem firstRefused_alike {ask : P → String → Nat → P × Except PortError Bool}
    {ask' : Q → String → Nat → Q × Except PortError Bool}
    (alike : ∀ {p q}, places p q → ∀ port count,
      Alike places (ask p port count) (ask' q port count))
    (demands : List PortCount) (h : places p q) :
    Alike places (firstRefused ask demands p) (firstRefused ask' demands q) := by
  induction demands generalizing p q with
  | nil => exact ⟨h, rfl⟩
  | cons demand rest ih =>
      obtain ⟨after, same⟩ := alike h demand.port demand.count
      rw [firstRefused, firstRefused]
      revert after same
      rcases ask p demand.port demand.count with ⟨p', answer⟩
      rcases ask' q demand.port demand.count with ⟨q', answer'⟩
      rintro after ⟨⟩
      rcases answer with e | _ | _
      · exact ⟨after, rfl⟩
      · exact ⟨after, rfl⟩
      · exact ih after

theorem peekAll_alike (access : PortAccess.Alike behaviour.actor places)
    (inputs : List PortCount) (h : places p q) :
    Alike places (peekAll behaviour.actor inputs p) (peekAll behaviour.actor inputs q) := by
  induction inputs generalizing p q with
  | nil => exact ⟨h, rfl⟩
  | cons input rest ih =>
      obtain ⟨after, same⟩ := access.peek h input.port input.count
      rw [peekAll, peekAll]
      revert after same
      rcases PortAccess.peek p behaviour.actor input.port input.count with ⟨p', answer⟩
      rcases PortAccess.peek q behaviour.actor input.port input.count with ⟨q', answer'⟩
      rintro after ⟨⟩
      rcases answer with e | tokens
      · exact ⟨after, rfl⟩
      · obtain ⟨last, more⟩ := ih after
        exact ⟨last, congrArg (Except.map (tokens ++ ·)) more⟩

theorem writeAll_alike (access : PortAccess.Alike behaviour.actor places)
    (assigned : List (String × Value)) (h : places p q) :
    Alike places (writeAll behaviour.actor assigned p) (writeAll behaviour.actor assigned q) := by
  induction assigned generalizing p q with
  | nil => exact ⟨h, rfl⟩
  | cons entry rest ih =>
      obtain ⟨after, same⟩ := access.write h entry.1 (.data entry.2)
      rw [writeAll, writeAll]
      revert after same
      rcases PortAccess.write p behaviour.actor entry.1 (.data entry.2) with ⟨p', answer⟩
      rcases PortAccess.write q behaviour.actor entry.1 (.data entry.2) with ⟨q', answer'⟩
      rintro after ⟨⟩
      rcases answer with e | _
      · exact ⟨after, rfl⟩
      · exact ih after

theorem invoke_alike (respects : behaviour.Respects states) (listed : action.Respects states)
    (tokens : List Token) (h : states s t) :
    Alike states (action.invoke behaviour s tokens).value
      (action.invoke behaviour t tokens).value := by
  rw [value_invoke, value_invoke]
  cases exception : tokens.findSome? Token.reason? with
  | some reason =>
      obtain ⟨after, same⟩ := respects.onException h action.name reason
      simp only [response, exception]
      revert after same
      rcases (behaviour.onException s action.name reason).value with ⟨s', answer⟩
      rcases (behaviour.onException t action.name reason).value with ⟨t', answer'⟩
      rintro after ⟨⟩
      rcases answer with source | result <;> exact ⟨after, rfl⟩
  | none =>
      simp only [response, exception, listed.inputGuard h]
      by_cases accepted : action.accepts t (tokens.filterMap Token.value?) = true
      · obtain ⟨after, same⟩ := listed.body h (tokens.filterMap Token.value?)
        simp only [if_pos accepted]
        revert after same
        rcases (action.body s (tokens.filterMap Token.value?)).value with ⟨s', answer⟩
        rcases (action.body t (tokens.filterMap Token.value?)).value with ⟨t', answer'⟩
        rintro after ⟨⟩
        rcases answer with source | result <;> exact ⟨after, rfl⟩
      · simp only [if_neg accepted]
        exact ⟨h, rfl⟩

theorem complete_alike (access : PortAccess.Alike behaviour.actor places) (priority : Nat)
    (consumed : Nat) (values : List Value) (hs : states s t) (hp : places p q) :
    Outcome.Alike states places
      (action.complete behaviour priority consumed values s p).value
      (action.complete behaviour priority consumed values t q).value := by
  obtain ⟨after, same⟩ := access.commit hp (PortCount.ports action.inputs)
  rw [complete, complete]
  revert after same
  rcases PortAccess.commit p behaviour.actor (PortCount.ports action.inputs) with ⟨p', answer⟩
  rcases PortAccess.commit q behaviour.actor (PortCount.ports action.inputs) with ⟨q', answer'⟩
  rintro after ⟨⟩
  rcases answer with e | exhausted
  · exact ⟨hs, after, rfl⟩
  · obtain ⟨last, same⟩ := writeAll_alike access (assign action.outputs values) after
    simp only
    revert last same
    rcases writeAll behaviour.actor (assign action.outputs values) p' with ⟨p'', answer⟩
    rcases writeAll behaviour.actor (assign action.outputs values) q' with ⟨q'', answer'⟩
    rintro last ⟨⟩
    rcases answer with e | _ <;> exact ⟨hs, last, rfl⟩

theorem proceed_alike (access : PortAccess.Alike behaviour.actor places)
    (respects : behaviour.Respects states) (listed : action.Respects states) (priority : Nat)
    (hs : states s t) (hp : places p q) :
    Outcome.Alike states places (action.proceed behaviour priority s p).value
      (action.proceed behaviour priority t q).value := by
  obtain ⟨after, same⟩ := peekAll_alike access action.inputs hp
  rw [proceed, proceed]
  revert after same
  rcases peekAll behaviour.actor action.inputs p with ⟨p', answer⟩
  rcases peekAll behaviour.actor action.inputs q with ⟨q', answer'⟩
  rintro after ⟨⟩
  have cancelled := (access.cancel after (PortCount.ports action.inputs)).1
  rcases answer with e | tokens
  · simp only [Logged.value_bind, value_abandon]
    exact ⟨hs, cancelled, rfl⟩
  · obtain ⟨moved, same⟩ := invoke_alike respects listed tokens hs
    simp only [Logged.value_bind]
    revert moved same
    rcases (action.invoke behaviour s tokens).value with ⟨s', verdict⟩
    rcases (action.invoke behaviour t tokens).value with ⟨t', verdict'⟩
    rintro moved ⟨⟩
    rcases verdict with e | values | reason
    · simp only [Logged.value_bind, value_abandon]
      exact ⟨moved, cancelled, rfl⟩
    · exact complete_alike access priority tokens.length values moved after
    · have same := (access.cancel after (PortCount.ports action.inputs)).2
      simp only
      revert cancelled same
      rcases PortAccess.cancel p' behaviour.actor (PortCount.ports action.inputs) with
        ⟨p'', answer⟩
      rcases PortAccess.cancel q' behaviour.actor (PortCount.ports action.inputs) with
        ⟨q'', answer'⟩
      rintro cancelled ⟨⟩
      rcases answer with e | _ <;> exact ⟨moved, cancelled, rfl⟩

/-- An attempt on ports that answer alike, in states that are not told apart. -/
theorem tryFire_alike (access : PortAccess.Alike behaviour.actor places)
    (respects : behaviour.Respects states) (listed : action.Respects states) (priority : Nat)
    (hs : states s t) (hp : places p q) :
    Outcome.Alike states places (action.tryFire behaviour priority s p).value
      (action.tryFire behaviour priority t q).value := by
  rw [tryFire, tryFire, listed.guard hs]
  by_cases guard : action.open? t = true
  · rw [if_pos guard, if_pos guard]
    obtain ⟨after, same⟩ := firstRefused_alike access.tokensAvailable
      (PortCount.totals action.inputs) hp
    revert after same
    rcases firstRefused (PortAccess.tokensAvailable · behaviour.actor)
      (PortCount.totals action.inputs) p with ⟨p', answer⟩
    rcases firstRefused (PortAccess.tokensAvailable · behaviour.actor)
      (PortCount.totals action.inputs) q with ⟨q', answer'⟩
    rintro after ⟨⟩
    rcases answer with e | _ | port
    · exact ⟨hs, after, rfl⟩
    · obtain ⟨later, same⟩ := firstRefused_alike access.slotsAvailable
        (PortCount.totals action.outputs) after
      simp only
      revert later same
      rcases firstRefused (PortAccess.slotsAvailable · behaviour.actor)
        (PortCount.totals action.outputs) p' with ⟨p'', answer⟩
      rcases firstRefused (PortAccess.slotsAvailable · behaviour.actor)
        (PortCount.totals action.outputs) q' with ⟨q'', answer'⟩
      rintro later ⟨⟩
      rcases answer with e | _ | port
      · exact ⟨hs, later, rfl⟩
      · exact proceed_alike access respects listed priority hs later
      · exact ⟨hs, later, rfl⟩
    · exact ⟨hs, after, rfl⟩
  · rw [if_neg guard, if_neg guard]
    exact ⟨hs, hp, rfl⟩

end Action

/-! ## Calls -/

namespace Behaviour

variable {S P Q : Type} [PortAccess P] [PortAccess Q] {states : S → S → Prop}
  {places : P → Q → Prop} {behaviour : Behaviour S} {s t : S} {p : P} {q : Q}

theorem scan_alike (access : PortAccess.Alike behaviour.actor places)
    (respects : behaviour.Respects states) {actions : List (Action S)}
    (listed : ∀ action ∈ actions, action.Respects states) (priority : Nat) (hs : states s t)
    (hp : places p q) :
    Outcome.Alike states places (behaviour.scan priority actions s p).value
      (behaviour.scan priority actions t q).value := by
  induction actions generalizing priority s t p q with
  | nil => exact ⟨hs, hp, rfl⟩
  | cons action rest ih =>
      have tried := action.tryFire_alike access respects (listed action (List.mem_cons_self ..))
        priority hs hp
      rw [scan, scan, Logged.value_bind, Logged.value_bind]
      revert tried
      rcases (action.tryFire behaviour priority s p).value with ⟨s', p', result⟩
      rcases (action.tryFire behaviour priority t q).value with ⟨t', q', result'⟩
      rintro ⟨moved, after, ⟨⟩⟩
      rcases result with e | firing | reason
      · exact ⟨moved, after, rfl⟩
      · exact ⟨moved, after, rfl⟩
      · exact ih (fun other member => listed other (List.mem_cons_of_mem _ member)) _ moved after

theorem select_alike (access : PortAccess.Alike behaviour.actor places)
    (respects : behaviour.Respects states) (hs : states s t) (hp : places p q) :
    Outcome.Alike states places (behaviour.select s p).value (behaviour.select t q).value :=
  scan_alike access respects respects.actions 0 hs hp

/-- Calls correspond: either the limit is too low for both, or both end alike. -/
inductive CallsAlike (states : S → S → Prop) (places : P → Q → Prop) :
    Option (Outcome S P FireReport) → Option (Outcome S Q FireReport) → Prop
  | unfinished : CallsAlike states places none none
  | finished {first : Outcome S P FireReport} {second : Outcome S Q FireReport} :
      Outcome.Alike states places first second →
      CallsAlike states places (some first) (some second)

theorem fireFrom_alike (access : PortAccess.Alike behaviour.actor places)
    (respects : behaviour.Respects states) (limit : Nat) (report : FireReport) (hs : states s t)
    (hp : places p q) :
    CallsAlike states places (behaviour.fireFrom limit report s p).value
      (behaviour.fireFrom limit report t q).value := by
  induction limit generalizing report s t p q with
  | zero => exact .unfinished
  | succ limit ih =>
      have selected := select_alike access respects hs hp
      rw [fireFrom, fireFrom, Logged.value_bind, Logged.value_bind]
      revert selected
      rcases (behaviour.select s p).value with ⟨s', p', result⟩
      rcases (behaviour.select t q).value with ⟨t', q', result'⟩
      rintro ⟨moved, after, ⟨⟩⟩
      rcases result with e | _ | firing
      · exact .finished ⟨moved, after, rfl⟩
      · exact .finished ⟨moved, after, rfl⟩
      · exact ih (report.record firing) moved after

/-- A call on ports that answer alike, in states that are not told apart. -/
theorem fire_alike (access : PortAccess.Alike behaviour.actor places)
    (respects : behaviour.Respects states) (limit : Nat) (hs : states s t) (hp : places p q) :
    CallsAlike states places (behaviour.fire limit s p).value (behaviour.fire limit t q).value :=
  fireFrom_alike access respects limit {} hs hp

end Behaviour

/-! ## Stores with the same ports of an actor -/

namespace PortStore

/-- The actor has the same ports in both stores. -/
def SamePorts (actor : ActorRef) (first second : PortStore) : Prop :=
  first.ports? actor = second.ports? actor

variable {actor : ActorRef} {first second : PortStore}

theorem SamePorts.setQueue (h : SamePorts actor first second) (direction : Direction)
    (port : String) (queue : Queue) :
    SamePorts actor (first.setQueue actor direction port queue)
      (second.setQueue actor direction port queue) := by
  rw [SamePorts, PortStore.setQueue, PortStore.setQueue, ports?_setPorts_self,
    ports?_setPorts_self, h]

theorem onQueue_alike {α : Type} (h : SamePorts actor first second) (direction : Direction)
    (port : String) (work : Queue → Queue × Except PortError α) :
    Alike (SamePorts actor) (first.onQueue actor direction port work)
      (second.onQueue actor direction port work) := by
  rw [onQueue, onQueue, queue_congr h]
  cases second.queue actor direction port with
  | error e => exact ⟨h, rfl⟩
  | ok queue => exact ⟨h.setQueue direction port _, rfl⟩

theorem commitEach_alike (names : List String) (exhausted : NameSet)
    (h : SamePorts actor first second) :
    Alike (SamePorts actor) (commitEach actor names first exhausted)
      (commitEach actor names second exhausted) := by
  induction names generalizing first second exhausted with
  | nil => exact ⟨h, rfl⟩
  | cons name rest ih =>
      rw [commitEach, commitEach, queue_congr h]
      cases second.queue actor .input name with
      | error e => exact ih exhausted h
      | ok queue => exact ih _ (h.setQueue .input name _)

theorem commit_alike (names : List String) (h : SamePorts actor first second) :
    Alike (SamePorts actor) (first.commit actor names) (second.commit actor names) := by
  have lookups : (fun port => (first.queue actor .input port).map fun _ => ()) =
      fun port => (second.queue actor .input port).map fun _ => () := by
    funext port
    rw [queue_congr h]
  rw [commit, commit, lookups]
  cases names.forM fun port => (second.queue actor .input port).map fun _ => () with
  | error e => exact ⟨h, rfl⟩
  | ok _ =>
      obtain ⟨after, same⟩ := commitEach_alike names ∅ h
      exact ⟨after, congrArg Except.ok same⟩

theorem cancel_alike (names : List String) (h : SamePorts actor first second) :
    Alike (SamePorts actor) (first.cancel actor names) (second.cancel actor names) := by
  induction names generalizing first second with
  | nil => exact ⟨h, rfl⟩
  | cons name rest ih =>
      rw [cancel, cancel, queue_congr h]
      cases second.queue actor .input name with
      | error e => exact ⟨(ih h).1, rfl⟩
      | ok queue => exact ih (h.setQueue .input name _)

/-- Stores in which an actor has the same ports answer it alike. -/
theorem alike_ports? (actor : ActorRef) : PortAccess.Alike actor (SamePorts actor) where
  tokensAvailable h port count :=
    ⟨h, by simp only [PortAccess.tokensAvailable, tokensAvailable, queue_congr h]⟩
  slotsAvailable h port count :=
    ⟨h, by simp only [PortAccess.slotsAvailable, slotsAvailable, queue_congr h]⟩
  peek h port count := onQueue_alike h .input port _
  commit h names := commit_alike names h
  cancel h names := cancel_alike names h
  write h port token := onQueue_alike h .output port _

end PortStore

end Dataflow
