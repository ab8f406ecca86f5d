import Dataflow.Proofs.Firing.Termination
import Dataflow.Proofs.Port.Run

/-!
# Calls that end because something runs out

What a firing uses up need not be on the ports: a guard can depend on the actor's fields, and what
the actor reads from a capability is gone after it.  A call comes to an end if some measure of the
state and of the ports falls with every firing and does not rise with the attempts in between.  The
ports may be in any condition here, with peeks pending on them.

* `Action.Spends` — what an attempt comes to on such ports, as far as it concerns the tokens on the
  in-ports; `Action.tryFire_spends` says that this is all.
* `Behaviour.Lowers` — firings lower a measure, and attempts that are skipped do not raise it.
* `Behaviour.EndsWithin` — a call returns after at most so many firings.
* `Behaviour.Lowers.endsWithin` — the measure bounds the firings of a call.
-/

namespace Dataflow

open PortCount

/-! ## Tokens on the in-ports -/

namespace PortStore

variable {store next : PortStore} {actor : ActorRef} {port : String}

/-- The number of tokens past the cursor of an in-port; none if there is no such port. -/
def unread (store : PortStore) (actor : ActorRef) (port : String) : Nat :=
  match store.queue actor .input port with
  | .ok queue => queue.available
  | .error _ => 0

/-- The in-ports hold the tokens that they held. -/
def SameTokens (actor : ActorRef) (before after : PortStore) : Prop :=
  ∀ port, after.tokensOn actor .input port = before.tokensOn actor .input port

/-- The in-ports lost at least the demand of declarations. -/
def Loses (actor : ActorRef) (inputs : List PortCount) (before after : PortStore) : Prop :=
  ∀ port, (after.tokensOn actor .input port).length + demand port inputs ≤
    (before.tokensOn actor .input port).length

/-- The cursors of the in-ports moved on by the demand of declarations. -/
def advanced (store : PortStore) (actor : ActorRef) (inputs : List PortCount) : PortStore :=
  store.mapSide actor .input fun port queue =>
    { queue with pending := queue.pending + demand port inputs }

/-- A peek that succeeds moves the cursor on, within the tokens that are there. -/
theorem peek_ok {input : PortCount} {tokens : List Token}
    (h : store.peek actor input.port input.count = (next, .ok tokens)) :
    next = store.advanced actor [input] ∧
      ∀ port, demand port [input] ≤ store.unread actor port := by
  cases found : store.queue actor .input input.port with
  | error e =>
      rw [peek, onQueue_of_error found] at h
      cases h
  | ok queue =>
      rw [peek, onQueue_of_ok found] at h
      by_cases enough : queue.tokensAvailable input.count = true
      · simp only [Queue.peek, if_pos enough] at h
        cases h
        refine ⟨mapSide_congr_at found ?_ fun name other different => ?_, fun port => ?_⟩
        · simp [onlyAt, demand]
        · simp [onlyAt, different, demand, different.symm]
        · by_cases here : input.port = port
          · subst here
            simpa [demand, unread, found, Queue.tokensAvailable] using enough
          · rw [demand_cons_of_ne here]
            exact Nat.zero_le _
      · simp only [Queue.peek, if_neg enough] at h
        cases h

theorem unread_advanced (inputs : List PortCount) (port : String) :
    (store.advanced actor inputs).unread actor port =
      store.unread actor port - demand port inputs := by
  cases found : store.queue actor .input port with
  | error e =>
      have missing : (store.advanced actor inputs).queue actor .input port = .error e := by
        rw [advanced, queue_mapSide, if_pos ⟨rfl, rfl⟩, found]
        rfl
      simp only [unread, missing, found, Nat.zero_sub]
  | ok queue =>
      have moved := queue_mapSide_self (fun port queue =>
        { queue with pending := queue.pending + demand port inputs }) found
      rw [← advanced] at moved
      simp only [unread, moved, found, Queue.available, Queue.length, Nat.sub_sub]

theorem advanced_advanced (first second : List PortCount) :
    (store.advanced actor first).advanced actor second =
      store.advanced actor (first ++ second) := by
  rw [advanced, advanced, mapSide_mapSide, advanced]
  refine mapSide_congr fun port queue _ => ?_
  rw [demand_append, Nat.add_assoc]

/-- Peeks that all succeed move the cursors on, within the tokens that are there. -/
theorem peekAll_ok {inputs : List PortCount} {tokens : List Token}
    (h : Action.peekAll actor inputs store = (next, .ok tokens)) :
    next = store.advanced actor inputs ∧
      ∀ port, demand port inputs ≤ store.unread actor port := by
  induction inputs generalizing store tokens with
  | nil =>
      cases h
      exact ⟨(mapSide_eq_self fun _ _ _ => rfl).symm, fun port => Nat.zero_le _⟩
  | cons input rest ih =>
      obtain ⟨moved, ⟨e⟩ | taken, first⟩ : ∃ moved answer,
          store.peek actor input.port input.count = (moved, answer) := ⟨_, _, rfl⟩
      · simp [Action.peekAll, PortAccess.peek, first] at h
      · obtain ⟨last, ⟨e⟩ | more, others⟩ : ∃ last answer,
            Action.peekAll actor rest moved = (last, answer) := ⟨_, _, rfl⟩
        · simp [Action.peekAll, PortAccess.peek, first, others, Except.map] at h
        · simp only [Action.peekAll, PortAccess.peek, first, others, Except.map] at h
          cases h
          obtain ⟨rfl, enough⟩ := peek_ok first
          obtain ⟨rfl, enoughMore⟩ := ih others
          refine ⟨advanced_advanced _ _, fun port => ?_⟩
          have here := enough port
          have later := enoughMore port
          rw [unread_advanced] at later
          rw [← List.singleton_append, demand_append]
          omega

/-! ## Giving back and taking -/

theorem SameTokens.trans {last : PortStore} (first : SameTokens actor store next)
    (second : SameTokens actor next last) : SameTokens actor store last :=
  fun port => (second port).trans (first port)

theorem Loses.trans_same {inputs : List PortCount} {last : PortStore}
    (first : Loses actor inputs store next) (second : SameTokens actor next last) :
    Loses actor inputs store last := by
  intro port
  rw [second port]
  exact first port

/-- A change of the in-ports' cursors. -/
theorem sameTokens_mapSide {f : String → Queue → Queue}
    (kept : ∀ port queue, (f port queue).tokens = queue.tokens) :
    SameTokens actor store (store.mapSide actor .input f) := by
  intro port
  cases found : store.queue actor .input port with
  | error e =>
      simp only [tokensOn, queue_mapSide, and_self, if_true, found, Except.map]
  | ok queue =>
      rw [tokensOn_of_ok (queue_mapSide_self f found), tokensOn_of_ok found, kept]

/-- A change of the out-ports. -/
theorem sameTokens_mapSide_output (f : String → Queue → Queue) :
    SameTokens actor store (store.mapSide actor .output f) := by
  intro port
  rw [tokensOn, queue_mapSide_of_ne _ _ (by simp), tokensOn]

theorem sameTokens_cancel (store : PortStore) (actor : ActorRef) (inputs : List PortCount)
    (names : List String) :
    SameTokens actor store ((store.advanced actor inputs).cancel actor names).1 := by
  rw [fst_cancel, advanced, cancelled, mapSide_mapSide]
  refine sameTokens_mapSide fun port queue => ?_
  split <;> rfl

/-- Values that are written go to the out-ports, also if one of them is refused. -/
theorem sameTokens_writeAll (store : PortStore) (actor : ActorRef)
    (assigned : List (String × Value)) :
    SameTokens actor store (Action.writeAll actor assigned store).1 := by
  induction assigned generalizing store with
  | nil => exact fun _ => rfl
  | cons entry rest ih =>
      have written : SameTokens actor store (store.write actor entry.1 (.data entry.2)).1 := by
        rw [write, fst_onQueue]
        exact sameTokens_mapSide_output _
      simp only [Action.writeAll, PortAccess.write]
      generalize store.write actor entry.1 (.data entry.2) = answer at written ⊢
      obtain ⟨next, _ | _⟩ := answer
      · exact written
      · exact written.trans (ih next)

/-- A commit takes away at least what the peeks before it handed out. -/
theorem loses_committed {inputs : List PortCount}
    (enough : ∀ port, demand port inputs ≤ store.unread actor port) :
    Loses actor inputs store ((store.advanced actor inputs).committed actor (ports inputs)) := by
  intro port
  have here := enough port
  rw [advanced, committed, mapSide_mapSide]
  cases found : store.queue actor .input port with
  | error e =>
      simp only [unread, found] at here
      simp only [tokensOn, queue_mapSide, and_self, if_true, found, Except.map, List.length_nil]
      omega
  | ok queue =>
      simp only [unread, found, Queue.available, Queue.length] at here
      rw [tokensOn_of_ok (queue_mapSide_self _ found), tokensOn_of_ok found]
      split
      · simp only [Queue.commit, List.length_drop]
        omega
      · rename_i absent
        rw [demand_eq_zero fun member => absent (mem_ports.2 member)]
        exact Nat.le_refl _

theorem commit_ok {names : List String} {exhausted : NameSet}
    (h : store.commit actor names = (next, .ok exhausted)) :
    next = store.committed actor names := by
  rw [commit] at h
  split at h
  · cases h
  · cases h
    exact fst_commitEach names store ∅

end PortStore

/-! ## Attempts -/

namespace Action

variable {S : Type} {behaviour : Behaviour S} {action : Action S} {state : S} {store : PortStore}

/-- What an attempt comes to.  If it does not fail, either the actor was not asked, or it was asked
with some tokens, while the guard of the action held; and the in-ports hold what they held, unless
the action fired. -/
inductive Spends (behaviour : Behaviour S) (action : Action S) (state : S) (store : PortStore) :
    Outcome S PortStore Attempt → Prop
  | failed {outcome : Outcome S PortStore Attempt} {e : FiringError} :
      outcome.result = .error e → Spends behaviour action state store outcome
  | skipped {next : PortStore} {reason : Skip} :
      store.SameTokens behaviour.actor next →
      Spends behaviour action state store ⟨state, next, .ok (.skipped reason)⟩
  | declined {after : S} {next : PortStore} {reason : Skip} {tokens : List Token} :
      action.open? state = true →
      action.response behaviour state tokens = some (after, .ok (.fired false)) →
      store.SameTokens behaviour.actor next →
      Spends behaviour action state store ⟨after, next, .ok (.skipped reason)⟩
  | fired {after : S} {next : PortStore} {firing : Firing} {tokens : List Token}
      {result : ActionResult} {values : List Value} :
      action.open? state = true →
      action.response behaviour state tokens = some (after, .ok result) →
      result.values? = some values →
      store.Loses behaviour.actor action.inputs next →
      Spends behaviour action state store ⟨after, next, .ok (.fired firing)⟩

theorem complete_spends {priority consumed : Nat} {after : S} {tokens : List Token}
    {result : ActionResult} {values : List Value}
    (guard : action.open? state = true)
    (answer : action.response behaviour state tokens = some (after, .ok result))
    (produced : result.values? = some values)
    (enough : ∀ port, demand port action.inputs ≤ store.unread behaviour.actor port) :
    Spends behaviour action state store
      (action.complete behaviour priority consumed values after
        (store.advanced behaviour.actor action.inputs)).value := by
  have lost := PortStore.loses_committed enough
  obtain ⟨taken, ⟨e⟩ | exhausted, committed⟩ : ∃ taken answer,
      (store.advanced behaviour.actor action.inputs).commit behaviour.actor (ports action.inputs) =
        (taken, answer) := ⟨_, _, rfl⟩
  · simp only [complete, PortAccess.commit, committed]
    exact .failed rfl
  · obtain rfl := PortStore.commit_ok committed
    have kept := PortStore.sameTokens_writeAll
      ((store.advanced behaviour.actor action.inputs).committed behaviour.actor
        (ports action.inputs)) behaviour.actor (assign action.outputs values)
    simp only [complete, PortAccess.commit, committed]
    generalize writeAll behaviour.actor (assign action.outputs values)
      ((store.advanced behaviour.actor action.inputs).committed behaviour.actor
        (ports action.inputs)) = written at kept ⊢
    obtain ⟨next, ⟨e⟩ | _⟩ := written
    · exact .failed rfl
    · exact .fired guard answer produced (lost.trans_same kept)

theorem proceed_spends {priority : Nat} (guard : action.open? state = true) :
    Spends behaviour action state store (action.proceed behaviour priority state store).value := by
  obtain ⟨handed, ⟨e⟩ | tokens, peeks⟩ : ∃ handed answer,
      peekAll behaviour.actor action.inputs store = (handed, answer) := ⟨_, _, rfl⟩
  · simp only [proceed, peeks, Logged.value_bind]
    exact .failed rfl
  · obtain ⟨rfl, enough⟩ := PortStore.peekAll_ok peeks
    have invoked := invoke_invoked behaviour action state tokens
    have kept := PortStore.sameTokens_cancel store behaviour.actor action.inputs
      (ports action.inputs)
    cases verdict : (action.invoke behaviour state tokens).value with
    | mk after result =>
        rw [verdict] at invoked
        rcases result with e | values | reason
        · simp only [proceed, peeks, verdict, Logged.value_bind]
          exact .failed rfl
        · simp only [proceed, peeks, verdict, Logged.value_bind]
          cases invoked with
          | produced answer produced _ => exact complete_spends guard answer produced enough
        · simp only [proceed, peeks, verdict, Logged.value_bind, PortAccess.cancel]
          generalize (store.advanced behaviour.actor action.inputs).cancel behaviour.actor
            (ports action.inputs) = cancelled at kept ⊢
          obtain ⟨next, ⟨e⟩ | _⟩ := cancelled
          · exact .failed rfl
          · cases invoked with
            | unaccepted _ => exact .skipped kept
            | declined answer => exact .declined guard answer kept

/-- On ports in any condition, an attempt that does not fire leaves the in-ports their tokens, and
one that fires takes at least what the action declares. -/
theorem tryFire_spends (behaviour : Behaviour S) (priority : Nat) (action : Action S) (state : S)
    (store : PortStore) :
    Spends behaviour action state store (action.tryFire behaviour priority state store).value := by
  have same : store.SameTokens behaviour.actor store := fun _ => rfl
  by_cases guard : action.open? state = true
  · have tokens : Checked store behaviour.actor _ _ :=
      totals_checked (PortAccess.tokensAvailable · behaviour.actor) .input
        Queue.tokensAvailable (fun _ _ => rfl) action.inputs
    have room : Checked store behaviour.actor _ _ :=
      totals_checked (PortAccess.slotsAvailable · behaviour.actor) .output
        Queue.slotsAvailable (fun _ _ => rfl) action.outputs
    simp only [tryFire, if_pos guard]
    generalize firstRefused (PortAccess.tokensAvailable · behaviour.actor)
      (totals action.inputs) store = found at tokens ⊢
    cases tokens with
    | missing _ _ => exact .failed rfl
    | refused _ => exact .skipped same
    | passed _ =>
        simp only
        generalize firstRefused (PortAccess.slotsAvailable · behaviour.actor)
          (totals action.outputs) store = free at room ⊢
        cases room with
        | missing _ _ => exact .failed rfl
        | refused _ => exact .skipped same
        | passed _ => exact proceed_spends guard
  · simp only [tryFire, if_neg guard]
    exact .skipped same

end Action

/-! ## Calls -/

namespace Behaviour

variable {S : Type} {behaviour : Behaviour S} {inv : S → Prop} {measure : S → PortStore → Nat}
  {state after last : S} {store next final : PortStore}

/-- The measure depends on the state and on the tokens of the in-ports.  In the states of interest,
which the actor does not leave, a firing lowers it, and an answer that declines does not raise
it. -/
structure Lowers (behaviour : Behaviour S) (inv : S → Prop) (measure : S → PortStore → Nat) :
    Prop where
  same : ∀ {state store next}, store.SameTokens behaviour.actor next →
    measure state next = measure state store
  declined : ∀ {action state store after tokens}, action ∈ behaviour.actions → inv state →
    action.open? state = true →
    action.response behaviour state tokens = some (after, .ok (.fired false)) →
    inv after ∧ measure after store ≤ measure state store
  fired : ∀ {action state store after next tokens result values}, action ∈ behaviour.actions →
    inv state → action.open? state = true →
    action.response behaviour state tokens = some (after, .ok result) →
    result.values? = some values → store.Loses behaviour.actor action.inputs next →
    inv after ∧ measure after next < measure state store

/-- A call returns with every limit above the bound, after at most that many firings. -/
def EndsWithin (behaviour : Behaviour S) (bound : Nat) (state : S) (store : PortStore) : Prop :=
  ∃ last final result,
    (∀ limit, bound < limit →
      (behaviour.fire limit state store).value = some ⟨last, final, result⟩) ∧
    ∃ firings rest end', Completed behaviour state store firings rest end' ∧
      firings.length ≤ bound ∧
      (((behaviour.select rest end').value = ⟨last, final, .ok none⟩ ∧
          result = .ok (firings.foldl FireReport.record {})) ∨
        ∃ e, (behaviour.select rest end').value = ⟨last, final, .error e⟩ ∧ result = .error e)

theorem Lowers.tryFire_skipped (lowers : behaviour.Lowers inv measure) {action : Action S}
    {priority : Nat} {reason : Skip} (listed : action ∈ behaviour.actions) (holds : inv state)
    (h : (action.tryFire behaviour priority state store).value =
      ⟨after, next, .ok (.skipped reason)⟩) :
    inv after ∧ measure after next ≤ measure state store := by
  have spends := action.tryFire_spends behaviour priority state store
  rw [h] at spends
  cases spends with
  | failed failed => cases failed
  | skipped kept => exact ⟨holds, (lowers.same kept).le⟩
  | declined guard answer kept =>
      rw [lowers.same kept]
      exact lowers.declined listed holds guard answer

theorem Lowers.tryFire_fired (lowers : behaviour.Lowers inv measure) {action : Action S}
    {priority : Nat} {firing : Firing} (listed : action ∈ behaviour.actions) (holds : inv state)
    (h : (action.tryFire behaviour priority state store).value =
      ⟨after, next, .ok (.fired firing)⟩) :
    inv after ∧ measure after next < measure state store := by
  have spends := action.tryFire_spends behaviour priority state store
  rw [h] at spends
  cases spends with
  | failed failed => cases failed
  | fired guard answer produced lost => exact lowers.fired listed holds guard answer produced lost

/-- The measure falls if something fires in a scan, and does not rise otherwise. -/
theorem Lowers.scan (lowers : behaviour.Lowers inv measure) {actions : List (Action S)}
    {priority : Nat} {firing : Firing} (listed : actions ⊆ behaviour.actions) (holds : inv state)
    (h : (behaviour.scan priority actions state store).value = ⟨after, next, .ok (some firing)⟩) :
    inv after ∧ measure after next < measure state store := by
  induction actions generalizing priority state store with
  | nil => cases h
  | cons action rest ih =>
      have here : action ∈ behaviour.actions := listed (List.mem_cons_self ..)
      obtain ⟨middle, moved, result, tried⟩ : ∃ middle moved result,
          (action.tryFire behaviour priority state store).value = ⟨middle, moved, result⟩ :=
        ⟨_, _, _, rfl⟩
      simp only [Behaviour.scan, Logged.value_bind, tried] at h
      rcases result with e | other | reason
      · cases h
      · cases h
        exact lowers.tryFire_fired here holds tried
      · obtain ⟨kept, lower⟩ := lowers.tryFire_skipped here holds tried
        obtain ⟨still, less⟩ := ih (fun other member => listed (List.mem_cons_of_mem _ member))
          kept h
        exact ⟨still, less.trans_le lower⟩

/-- A selection in which something fires lowers the measure. -/
theorem Lowers.select (lowers : behaviour.Lowers inv measure) {firing : Firing}
    (holds : inv state)
    (h : (behaviour.select state store).value = ⟨after, next, .ok (some firing)⟩) :
    inv after ∧ measure after next < measure state store :=
  lowers.scan (List.Subset.refl _) holds h

theorem Lowers.length_le (lowers : behaviour.Lowers inv measure) {firings : List Firing}
    (h : Completed behaviour state store firings last final) (holds : inv state) :
    firings.length ≤ measure state store := by
  induction h with
  | nil => exact Nat.zero_le _
  | cons selected _ ih =>
      obtain ⟨kept, less⟩ := lowers.select holds selected
      have others := ih kept
      rw [List.length_cons]
      omega

theorem Lowers.fireFrom_returns (lowers : behaviour.Lowers inv measure) {limit : Nat}
    (holds : inv state) (enough : measure state store < limit) (report : FireReport) :
    ∃ outcome, (behaviour.fireFrom limit report state store).value = some outcome := by
  induction limit generalizing report state store with
  | zero => exact absurd enough (Nat.not_lt_zero _)
  | succ limit ih =>
      obtain ⟨after, next, result, selected⟩ : ∃ after next result,
          (behaviour.select state store).value = ⟨after, next, result⟩ := ⟨_, _, _, rfl⟩
      simp only [fireFrom, Logged.value_bind, selected]
      rcases result with e | _ | firing
      · exact ⟨_, rfl⟩
      · exact ⟨_, rfl⟩
      · obtain ⟨kept, less⟩ := lowers.select holds selected
        exact ih kept (by omega) _

/-- The measure bounds the firings of a call, and a call returns. -/
theorem Lowers.endsWithin (lowers : behaviour.Lowers inv measure) (state : S) (holds : inv state)
    (store : PortStore) : behaviour.EndsWithin (measure state store) state store := by
  obtain ⟨⟨last, final, result⟩, returns⟩ :=
    lowers.fireFrom_returns holds (Nat.lt_succ_self (measure state store)) {}
  obtain ⟨firings, rest, end', completed, ended⟩ := fire_completed returns
  exact ⟨last, final, result, fun limit above => fireFrom_mono above returns, firings, rest, end',
    completed, lowers.length_le completed holds, ended⟩

end Behaviour

end Dataflow
