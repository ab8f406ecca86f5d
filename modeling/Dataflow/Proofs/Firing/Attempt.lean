import Dataflow.Proofs.Port.Transaction

/-!
# What comes of an attempt

Everything an attempt to fire can do to a store of ports whose in-ports start without a pending
peek.  The engine asks, peeks, invokes, commits and writes step by step; here the same attempt is
told in terms of what was there before it:

* `Action.Enabled` — the guard holds, every in-port holds the demand on it, and every out-port has
  room for the demand on it.
* `Action.response` — what the actor answers to the tokens that the action reads.
* `Action.Ready` — the action is enabled and the actor does not decline.
* `Action.Tried` — the outcomes of an attempt, each with what led to it.  `Action.tryFire_tried`
  says that there are no others: the store is as it was before, unless the action fired, and then
  its in-ports lost the demand on them and its out-ports got the produced values.
-/

namespace Dataflow

open PortCount

/-! ## Before the peek -/

/-- The errors of a store that knows nothing of a port or of its actor. -/
def PortError.Unknown (actor : ActorRef) (e : PortError) : Prop :=
  e = .unknownActor actor ∨ ∃ port direction, e = .unknownPort actor port direction

namespace PortStore

/-- Every declared port exists and has enough for the demand on it. -/
def Meets (store : PortStore) (actor : ActorRef) (direction : Direction)
    (enough : Queue → Nat → Bool) (declared : List PortCount) : Prop :=
  ∀ entry ∈ declared, ∃ queue, store.queue actor direction entry.port = .ok queue ∧
    enough queue (demand entry.port declared) = true

/-- Every declared in-port holds at least the demand on it. -/
def Holds (store : PortStore) (actor : ActorRef) (inputs : List PortCount) : Prop :=
  ∀ input ∈ inputs, ∃ queue, store.queue actor .input input.port = .ok queue ∧
    demand input.port inputs ≤ queue.length

/-- Every declared out-port has room for at least the demand on it. -/
def HasRoom (store : PortStore) (actor : ActorRef) (outputs : List PortCount) : Prop :=
  store.Meets actor .output Queue.slotsAvailable outputs

variable {store : PortStore} {actor : ActorRef}

theorem length_nextTokens {inputs : List PortCount} {cursor : String → Nat}
    (h : ∀ input ∈ inputs, ∃ queue, store.queue actor .input input.port = .ok queue ∧
      cursor input.port + demand input.port inputs ≤ queue.length) :
    (store.nextTokens actor cursor inputs).length = size inputs := by
  induction inputs generalizing cursor with
  | nil => rfl
  | cons input rest ih =>
      obtain ⟨queue, found, enough⟩ := h input (List.mem_cons_self ..)
      rw [demand_cons_self, Queue.length] at enough
      have later : ∀ other ∈ rest, ∃ queue, store.queue actor .input other.port = .ok queue ∧
          cursor other.port + demand other.port [input] + demand other.port rest ≤
            queue.length := by
        intro other member
        obtain ⟨queue, found, enough⟩ := h other (List.mem_cons_of_mem _ member)
        refine ⟨queue, found, ?_⟩
        rwa [Nat.add_assoc, ← demand_append, List.singleton_append]
      rw [nextTokens, List.length_append, ih later, tokensOn_of_ok found, List.length_take,
        List.length_drop, size]
      omega

/-- An action reads as many tokens as it declares. -/
theorem length_reads {inputs : List PortCount} (h : store.Holds actor inputs) :
    (store.reads actor inputs).length = size inputs := by
  refine length_nextTokens fun input member => ?_
  rw [Nat.zero_add]
  exact h input member

/-- Without a pending peek, all that a queue holds can be handed out. -/
theorem meets_iff_holds (clean : store.Unpeeked actor) (inputs : List PortCount) :
    store.Meets actor .input Queue.tokensAvailable inputs ↔ store.Holds actor inputs := by
  refine forall₂_congr fun input _ => exists_congr fun queue => and_congr_right fun found => ?_
  rw [Queue.tokensAvailable_iff, clean _ _ found, Nat.sub_zero]

theorem Holds.known {inputs : List PortCount} (h : store.Holds actor inputs) :
    ∀ input ∈ inputs, ∃ queue, store.queue actor .input input.port = .ok queue :=
  fun input member => (h input member).imp fun _ found => found.1

/-- If every in-port holds the demand on it, the peeks hand out what the action reads. -/
theorem Holds.peekAll_eq {inputs : List PortCount} (h : store.Holds actor inputs)
    (clean : store.Unpeeked actor) :
    Action.peekAll actor inputs store =
      (store.peeked actor fun port => demand port inputs, .ok (store.reads actor inputs)) := by
  have enough : ∀ input ∈ inputs, ∃ queue, store.queue actor .input input.port = .ok queue ∧
      0 + demand input.port inputs ≤ queue.length := by
    intro input member
    rw [Nat.zero_add]
    exact h input member
  have all := peekAll_peeked (fun _ => 0) enough
  simp only [peeked_zero clean, Nat.zero_add] at all
  exact all

end PortStore

/-- What comes of asking for all demands of one direction: whether they fit, and which port is the
first that is not known or does not do. -/
inductive Checked (store : PortStore) (actor : ActorRef) (fit : Prop) :
    PortStore × Except PortError (Option String) → Prop
  | missing {e : PortError} : e.Unknown actor → ¬fit → Checked store actor fit (store, .error e)
  | refused {port : String} : ¬fit → Checked store actor fit (store, .ok (some port))
  | passed : fit → Checked store actor fit (store, .ok none)

namespace Action

variable {store : PortStore} {actor : ActorRef}

/-- Asking a store that answers without changing stops at the first demand that is not met. -/
theorem firstRefused_cases (ask : PortStore → String → Nat → PortStore × Except PortError Bool)
    (answer : String → Nat → Except PortError Bool)
    (pure : ∀ port count, ask store port count = (store, answer port count))
    (demands : List PortCount) :
    (∃ total ∈ demands, ∃ e, answer total.port total.count = .error e ∧
      firstRefused ask demands store = (store, .error e)) ∨
    (∃ total ∈ demands, answer total.port total.count = .ok false ∧
      firstRefused ask demands store = (store, .ok (some total.port))) ∨
    ((∀ total ∈ demands, answer total.port total.count = .ok true) ∧
      firstRefused ask demands store = (store, .ok none)) := by
  induction demands with
  | nil => exact Or.inr (Or.inr ⟨by simp, rfl⟩)
  | cons total rest ih =>
      have here : total ∈ total :: rest := List.mem_cons_self ..
      cases asked : answer total.port total.count with
      | error e => exact Or.inl ⟨total, here, e, asked, by simp [firstRefused, pure, asked]⟩
      | ok enough =>
          cases enough with
          | false =>
              exact Or.inr (Or.inl ⟨total, here, asked, by simp [firstRefused, pure, asked]⟩)
          | true =>
              have next : firstRefused ask (total :: rest) store =
                  firstRefused ask rest store := by
                simp [firstRefused, pure, asked]
              rw [next]
              rcases ih with ⟨other, member, e, h⟩ | ⟨other, member, h⟩ | ⟨all, h⟩
              · exact Or.inl ⟨other, List.mem_cons_of_mem _ member, e, h⟩
              · exact Or.inr (Or.inl ⟨other, List.mem_cons_of_mem _ member, h⟩)
              · refine Or.inr (Or.inr ⟨?_, h⟩)
                intro other member
                rcases List.mem_cons.1 member with rfl | member
                · exact asked
                · exact all other member

/-- Asking for the totals of declarations finds out whether every port meets the demand on it. -/
theorem totals_checked (ask : PortStore → String → Nat → PortStore × Except PortError Bool)
    (direction : Direction) (enough : Queue → Nat → Bool)
    (pure : ∀ port count,
      ask store port count = (store, (store.queue actor direction port).map (enough · count)))
    (declared : List PortCount) :
    Checked store actor (store.Meets actor direction enough declared)
      (firstRefused ask (totals declared) store) := by
  rcases firstRefused_cases ask _ pure (totals declared) with
    ⟨total, member, e, asked, h⟩ | ⟨total, member, asked, h⟩ | ⟨all, h⟩
  · rw [h]
    cases found : store.queue actor direction total.port with
    | ok queue => rw [found] at asked; cases asked
    | error e' =>
        rw [found] at asked
        obtain rfl : e' = e := by simpa [Except.map] using asked
        refine .missing ?_ fun meets => ?_
        · exact (PortStore.queue_eq_error found).imp_right fun eq => ⟨_, _, eq⟩
        · obtain ⟨entry, listed, same⟩ := exists_declaration member
          obtain ⟨queue, found', -⟩ := meets entry listed
          rw [same, found] at found'
          cases found'
  · rw [h]
    refine .refused fun meets => ?_
    obtain ⟨entry, listed, same⟩ := exists_declaration member
    obtain ⟨queue, found, met⟩ := meets entry listed
    rw [same] at found met
    rw [found, count_eq_demand member] at asked
    simp [Except.map, met] at asked
  · rw [h]
    refine .passed fun entry listed => ?_
    obtain ⟨total, member, same, amount⟩ := exists_total listed
    have asked := all total member
    rw [same, amount] at asked
    cases found : store.queue actor direction entry.port with
    | error e => rw [found] at asked; cases asked
    | ok queue =>
        rw [found] at asked
        exact ⟨queue, rfl, by simpa [Except.map] using asked⟩

end Action

/-! ## The actor's answer -/

/-- The values that a result stands for; there are none if the actor declined. -/
def ActionResult.values? : ActionResult → Option (List Value)
  | .fired false => none
  | .fired true => some []
  | .produced values => some values

theorem ActionResult.values?_eq_none {result : ActionResult} :
    result.values? = none ↔ result = .fired false := by
  cases result with
  | produced values => simp [values?]
  | fired fired => cases fired <;> simp [values?]

namespace Action

variable {S : Type} {behaviour : Behaviour S} {priority : Nat} {action : Action S} {state : S}
  {store : PortStore}

/-- What the actor answers to tokens: its handler's answer to the first exception token, or else
the body's answer to the values.  There is no answer if the input guard does not accept them. -/
def response (behaviour : Behaviour S) (action : Action S) (state : S) (tokens : List Token) :
    Option (S × Except Failure ActionResult) :=
  match tokens.findSome? Token.reason? with
  | some reason => some (behaviour.onException state action.name reason).value
  | none =>
    if action.accepts state (tokens.filterMap Token.value?) then
      some (action.body state (tokens.filterMap Token.value?)).value
    else none

/-- The error of an actor that fails on tokens: its handler does if one of them is an exception
token, otherwise its body. -/
def failure (behaviour : Behaviour S) (action : Action S) (tokens : List Token)
    (source : Failure) : FiringError :=
  match tokens.findSome? Token.reason? with
  | some reason => .unhandledException behaviour.actor action.name reason source
  | none => .actionFailed behaviour.actor action.name source

/-- A result is checked for being a decline, then for the number of its values. -/
theorem value_check (actor : ActorRef) (result : ActionResult) :
    (action.check actor result).value =
      match result.values? with
      | none => .ok (.skipped .declined)
      | some values =>
        if values.length = action.outputArity then .ok (.produced values)
        else .error (.invalidProduction actor action.name action.outputArity values.length) := by
  cases result with
  | produced values =>
      by_cases count : values.length = action.outputArity <;>
        simp [check, ActionResult.values?, count]
  | fired fired =>
      cases fired with
      | false => rfl
      | true =>
          by_cases count : 0 = action.outputArity
          · simp [check, ActionResult.values?, ← count]
          · simp [check, ActionResult.values?, count]

/-- The tokens are invoked by way of the actor's answer to them. -/
theorem value_invoke (tokens : List Token) :
    (action.invoke behaviour state tokens).value =
      match action.response behaviour state tokens with
      | none => (state, .ok (.skipped .inputGuard))
      | some (after, .error source) => (after, .error (action.failure behaviour tokens source))
      | some (after, .ok result) => (after, (action.check behaviour.actor result).value) := by
  cases exception : tokens.findSome? Token.reason? with
  | some reason =>
      simp only [invoke, response, failure, exception, Logged.value_bind]
      rcases (behaviour.onException state action.name reason).value with ⟨after, source | result⟩
      · rfl
      · rfl
  | none =>
      by_cases accepted : action.accepts state (tokens.filterMap Token.value?) = true
      · simp only [invoke, response, failure, exception, if_pos accepted, Logged.value_bind]
        rcases (action.body state (tokens.filterMap Token.value?)).value with
          ⟨after, source | result⟩ <;> rfl
      · simp only [invoke, response, exception, if_neg accepted]
        rfl

/-- What becomes of the actor's answer to tokens: the state it leaves, and the verdict. -/
inductive Invoked (behaviour : Behaviour S) (action : Action S) (state : S)
    (tokens : List Token) : S × Except FiringError Verdict → Prop
  /-- The input guard does not accept the values. -/
  | unaccepted : action.response behaviour state tokens = none →
      Invoked behaviour action state tokens (state, .ok (.skipped .inputGuard))
  /-- The body or the handler declined. -/
  | declined {after : S} :
      action.response behaviour state tokens = some (after, .ok (.fired false)) →
      Invoked behaviour action state tokens (after, .ok (.skipped .declined))
  /-- The declared number of values was produced. -/
  | produced {after : S} {result : ActionResult} {values : List Value} :
      action.response behaviour state tokens = some (after, .ok result) →
      result.values? = some values → values.length = action.outputArity →
      Invoked behaviour action state tokens (after, .ok (.produced values))
  /-- Another number of values was produced. -/
  | miscounted {after : S} {result : ActionResult} {values : List Value} :
      action.response behaviour state tokens = some (after, .ok result) →
      result.values? = some values → values.length ≠ action.outputArity →
      Invoked behaviour action state tokens
        (after, .error (.invalidProduction behaviour.actor action.name action.outputArity
          values.length))
  /-- The body or the handler failed. -/
  | failed {after : S} {source : Failure} :
      action.response behaviour state tokens = some (after, .error source) →
      Invoked behaviour action state tokens
        (after, .error (action.failure behaviour tokens source))

theorem invoke_invoked (behaviour : Behaviour S) (action : Action S) (state : S)
    (tokens : List Token) :
    Invoked behaviour action state tokens (action.invoke behaviour state tokens).value := by
  rw [value_invoke]
  cases answer : action.response behaviour state tokens with
  | none => exact .unaccepted answer
  | some answered =>
      obtain ⟨after, source | result⟩ := answered
      · exact .failed answer
      · simp only [value_check]
        cases produced : result.values? with
        | none =>
            obtain rfl := ActionResult.values?_eq_none.1 produced
            exact .declined answer
        | some values =>
            by_cases count : values.length = action.outputArity
            · simp only [if_pos count]
              exact .produced answer produced count
            · simp only [if_neg count]
              exact .miscounted answer produced count

/-! ## The attempt -/

/-- The guard holds, and the ports have the tokens and the room that the action asks for. -/
structure Enabled (actor : ActorRef) (action : Action S) (state : S) (store : PortStore) :
    Prop where
  guard : action.open? state = true
  tokens : store.Holds actor action.inputs
  room : store.HasRoom actor action.outputs

/-- The action is enabled, and the actor does not decline the tokens that it reads. -/
structure Ready (behaviour : Behaviour S) (action : Action S) (state : S) (store : PortStore) :
    Prop extends Enabled behaviour.actor action state store where
  willing : ∃ after result,
    action.response behaviour state (store.reads behaviour.actor action.inputs) =
      some (after, result) ∧ result ≠ .ok (.fired false)

/-- The ports after the action has fired with the given values. -/
def effect (actor : ActorRef) (action : Action S) (values : List Value) (store : PortStore) :
    PortStore :=
  (store.consume actor action.inputs).produce actor (assign action.outputs values)

section Effect

variable {actor : ActorRef} {port : String} {queue : Queue}

/-- An in-port loses the demand on it. -/
theorem queue_effect_input (action : Action S) (values : List Value)
    (found : store.queue actor .input port = .ok queue) :
    (action.effect actor values store).queue actor .input port =
      .ok { queue with tokens := queue.tokens.drop (demand port action.inputs) } := by
  rw [effect, PortStore.produce, PortStore.queue_mapSide_of_ne _ _ (by simp)]
  exact PortStore.queue_mapSide_self _ found

/-- An out-port gains the values that are meant for it. -/
theorem queue_effect_output (action : Action S) (values : List Value)
    (found : store.queue actor .output port = .ok queue) :
    (action.effect actor values store).queue actor .output port =
      .ok { queue with
        tokens := queue.tokens ++
          (PortStore.valuesFor port (assign action.outputs values)).map Token.data } := by
  have kept : (store.consume actor action.inputs).queue actor .output port = .ok queue := by
    rw [PortStore.queue_consume_output, found]
  exact PortStore.queue_mapSide_self _ kept

theorem queue_effect_of_ne (action : Action S) (values : List Value) {other : ActorRef}
    (h : other ≠ actor) (direction : Direction) (port : String) :
    (action.effect actor values store).queue other direction port =
      store.queue other direction port := by
  rw [effect, PortStore.produce, PortStore.queue_mapSide_of_ne _ _ (by simp [h]),
    PortStore.consume, PortStore.queue_mapSide_of_ne _ _ (by simp [h])]

theorem queue_effect_error (action : Action S) (values : List Value) {direction : Direction}
    {e : PortError} (missing : store.queue actor direction port = .error e) :
    (action.effect actor values store).queue actor direction port = .error e := by
  rw [effect, PortStore.produce, PortStore.queue_mapSide, PortStore.consume,
    PortStore.queue_mapSide, missing]
  split <;> split <;> rfl

end Effect

/-- A firing appends to an out-port what the action produces for it. -/
theorem tokensOn_effect (enabled : Enabled behaviour.actor action state store)
    (values : List Value) (port : String) :
    (action.effect behaviour.actor values store).tokensOn behaviour.actor .output port =
      store.tokensOn behaviour.actor .output port ++
        (PortStore.valuesFor port (assign action.outputs values)).map Token.data := by
  cases found : store.queue behaviour.actor .output port with
  | ok queue =>
      rw [PortStore.tokensOn_of_ok found,
        PortStore.tokensOn_of_ok (queue_effect_output action values found)]
  | error e =>
      -- nothing is produced for a port that does not exist, since there is no room on it
      have none : PortStore.valuesFor port (assign action.outputs values) = [] := by
        refine List.filterMap_eq_nil_iff.2 fun entry member => ?_
        obtain ⟨output, declared, same⟩ := PortStore.exists_output_of_mem_assign member
        obtain ⟨queue, there, -⟩ := enabled.room output declared
        rw [if_neg]
        rintro rfl
        rw [same, found] at there
        cases there
      rw [none, PortStore.tokensOn, queue_effect_error action values found, PortStore.tokensOn,
        found]
      rfl

/-- A firing takes off an in-port what the action declares for it. -/
theorem tokensOn_effect_input (action : Action S) (actor : ActorRef) (values : List Value)
    (store : PortStore) (port : String) :
    (action.effect actor values store).tokensOn actor .input port =
      (store.tokensOn actor .input port).drop (demand port action.inputs) := by
  cases found : store.queue actor .input port with
  | ok queue =>
      rw [PortStore.tokensOn_of_ok found,
        PortStore.tokensOn_of_ok (queue_effect_input action values found)]
  | error e =>
      simp only [PortStore.tokensOn, queue_effect_error action values found, found,
        List.drop_nil]

/-- The report of a firing. -/
def firing (actor : ActorRef) (priority : Nat) (action : Action S) (store : PortStore) :
    Firing where
  action := action.name
  priority
  consumed := size action.inputs
  produced := action.outputArity
  exhausted := (store.consume actor action.inputs).emptied actor (ports action.inputs)

/-- The outcomes of an attempt.  The store is another one only if the action fires. -/
inductive Tried (behaviour : Behaviour S) (priority : Nat) (action : Action S) (state : S)
    (store : PortStore) : Outcome S PortStore Attempt → Prop
  /-- The guard does not hold. -/
  | closed : action.open? state = false →
      Tried behaviour priority action state store ⟨state, store, .ok (.skipped .guard)⟩
  /-- A declared port does not exist. -/
  | unknown {e : PortError} : e.Unknown behaviour.actor →
      ¬Enabled behaviour.actor action state store →
      Tried behaviour priority action state store ⟨state, store, .error (.port e)⟩
  /-- An in-port holds too little. -/
  | starved {port : String} : ¬Enabled behaviour.actor action state store →
      Tried behaviour priority action state store ⟨state, store, .ok (.skipped (.tokens port))⟩
  /-- An out-port lacks room. -/
  | blocked {port : String} : ¬Enabled behaviour.actor action state store →
      Tried behaviour priority action state store ⟨state, store, .ok (.skipped (.slots port))⟩
  /-- The actor does not want the tokens. -/
  | refused {after : S} {reason : Skip} : Enabled behaviour.actor action state store →
      Invoked behaviour action state (store.reads behaviour.actor action.inputs)
        (after, .ok (.skipped reason)) →
      Tried behaviour priority action state store ⟨after, store, .ok (.skipped reason)⟩
  /-- The actor fails on the tokens, or produces another number of values than declared. -/
  | failed {after : S} {e : FiringError} : Enabled behaviour.actor action state store →
      Invoked behaviour action state (store.reads behaviour.actor action.inputs)
        (after, .error e) →
      Tried behaviour priority action state store ⟨after, store, .error e⟩
  /-- The action fires. -/
  | fired {after : S} {values : List Value} : Enabled behaviour.actor action state store →
      Invoked behaviour action state (store.reads behaviour.actor action.inputs)
        (after, .ok (.produced values)) →
      Tried behaviour priority action state store
        ⟨after, action.effect behaviour.actor values store,
          .ok (.fired (action.firing behaviour.actor priority store))⟩

theorem value_abandon {P : Type} [PortAccess P] (actor : ActorRef) (names : List String)
    (ports : P) :
    (abandon actor names ports).value = (PortAccess.cancel ports actor names).1 := by
  simp only [abandon]
  rcases PortAccess.cancel ports actor names with ⟨after, e | _⟩ <;> rfl

/-- After a commit of enough tokens, the writes of the declared number of values succeed. -/
theorem value_complete (clean : store.Unpeeked behaviour.actor)
    (enabled : Enabled behaviour.actor action state store) {after : S} {values : List Value}
    (count : values.length = action.outputArity) :
    (action.complete behaviour priority (size action.inputs) values after
      (store.peeked behaviour.actor fun port => demand port action.inputs)).value =
        ⟨after, action.effect behaviour.actor values store,
          .ok (.fired (action.firing behaviour.actor priority store))⟩ := by
  have committed := PortStore.commit_peeked clean enabled.tokens.known
  have written : writeAll behaviour.actor (assign action.outputs values)
      (store.consume behaviour.actor action.inputs) =
        (action.effect behaviour.actor values store, .ok ()) := by
    refine PortStore.writeAll_eq fun entry member => ?_
    obtain ⟨output, declared, same⟩ := PortStore.exists_output_of_mem_assign member
    obtain ⟨queue, found, room⟩ := enabled.room output declared
    rw [PortStore.length_valuesFor_assign count, ← same, PortStore.queue_consume_output]
    exact ⟨queue, found, room⟩
  simp only [complete, PortAccess.commit, committed, written]
  rfl

theorem proceed_tried (clean : store.Unpeeked behaviour.actor)
    (enabled : Enabled behaviour.actor action state store) :
    Tried behaviour priority action state store
      (action.proceed behaviour priority state store).value := by
  have peeks := enabled.tokens.peekAll_eq clean
  have cancelled := PortStore.cancel_peekAll clean enabled.tokens.known
  have invoked := invoke_invoked behaviour action state
    (store.reads behaviour.actor action.inputs)
  cases verdict : (action.invoke behaviour state
      (store.reads behaviour.actor action.inputs)).value with
  | mk after result =>
      rw [verdict] at invoked
      cases result with
      | error e =>
          have outcome : (action.proceed behaviour priority state store).value =
              ⟨after, store, .error e⟩ := by
            simp [proceed, peeks, verdict, value_abandon, PortAccess.cancel, cancelled]
          rw [outcome]
          exact .failed enabled invoked
      | ok checked =>
          cases checked with
          | skipped reason =>
              have outcome : (action.proceed behaviour priority state store).value =
                  ⟨after, store, .ok (.skipped reason)⟩ := by
                simp [proceed, peeks, verdict, PortAccess.cancel, cancelled]
              rw [outcome]
              exact .refused enabled invoked
          | produced values =>
              have count : values.length = action.outputArity := by
                cases invoked
                assumption
              have outcome : (action.proceed behaviour priority state store).value =
                  ⟨after, action.effect behaviour.actor values store,
                    .ok (.fired (action.firing behaviour.actor priority store))⟩ := by
                simp only [proceed, peeks, verdict, Logged.value_bind,
                  PortStore.length_reads enabled.tokens]
                exact value_complete clean enabled count
              rw [outcome]
              exact .fired enabled invoked

/-- These are all outcomes of an attempt on ports without a pending peek. -/
theorem tryFire_tried (clean : store.Unpeeked behaviour.actor) :
    Tried behaviour priority action state store
      (action.tryFire behaviour priority state store).value := by
  by_cases guard : action.open? state = true
  · have tokens : Checked store behaviour.actor _ _ :=
      totals_checked (PortAccess.tokensAvailable · behaviour.actor) .input
        Queue.tokensAvailable (fun _ _ => rfl) action.inputs
    have room : Checked store behaviour.actor _ _ :=
      totals_checked (PortAccess.slotsAvailable · behaviour.actor) .output
        Queue.slotsAvailable (fun _ _ => rfl) action.outputs
    rw [PortStore.meets_iff_holds clean] at tokens
    simp only [tryFire, if_pos guard]
    generalize firstRefused (PortAccess.tokensAvailable · behaviour.actor)
      (totals action.inputs) store = found at tokens ⊢
    cases tokens with
    | missing unknown short => exact .unknown unknown fun enabled => short enabled.tokens
    | refused short => exact .starved fun enabled => short enabled.tokens
    | passed holds =>
        simp only
        generalize firstRefused (PortAccess.slotsAvailable · behaviour.actor)
          (totals action.outputs) store = free at room ⊢
        cases room with
        | missing unknown short => exact .unknown unknown fun enabled => short enabled.room
        | refused short => exact .blocked fun enabled => short enabled.room
        | passed free => exact proceed_tried clean ⟨guard, holds, free⟩
  · have closed : action.open? state = false := by simpa using guard
    simp only [tryFire, if_neg guard]
    exact .closed closed

end Action

end Dataflow
