import Mathlib.Algebra.Ring.Int.Defs
import Mathlib.Data.List.Infix
import Dataflow.Proofs.Actor.Pipeline
import Dataflow.Proofs.Actor.Relay
import Dataflow.Proofs.Actor.Relocation

/-!
# Running sums

An accumulator adds up the numbers that it reads from `in` and writes each total to `sum`.  However
its host times the deliveries, the calls, the drains and the moves, what it writes are the running
sums of what it has read: a full out-port only puts firings off, and a move keeps the total and the
statistics.  The history is not managed, so it starts over whenever the actor is restored.

* `Accumulator.runningSums` — the sums of the first number, of the first two, and so on.
* `Accumulator.Account`, `Accumulator.Account.travel` — an accumulator at work, and what a host does
  with it.
* `Accumulator.Booked` — where the accepted values are, and what came of those that were taken.
* `Accumulator.Account.sustains` — firings keep the books, and no call fails.
* `Accumulator.Account.travel_booked` — the books at the end of any run.
-/

namespace Dataflow.Actors.Accumulator

open PortCount

variable {W : Type}

/-! ## Numbers and their sums -/

/-- The number that a value counts as. -/
def number (value : Value) : Int := value.asInt64?.getD 0

/-- The sum of the first number, that of the first two, and so on. -/
def runningSums (numbers : List Int) : List Int := numbers.inits.tail.map List.sum

theorem runningSums_append (numbers : List Int) (n : Int) :
    runningSums (numbers ++ [n]) = runningSums numbers ++ [numbers.sum + n] := by
  have longer : (numbers ++ [n]).inits = numbers.inits ++ [numbers ++ [n]] := by
    rw [List.inits_append]
    rfl
  have nonempty : numbers.inits ≠ [] := by
    cases numbers <;> simp
  rw [runningSums, longer, List.tail_append_of_ne_nil nonempty, List.map_append, runningSums,
    List.map_singleton, List.sum_append, List.sum_singleton]

/-- The sum of all numbers is the last running sum. -/
theorem sum_mem_runningSums {numbers : List Int} (nonempty : numbers ≠ []) :
    numbers.sum ∈ runningSums numbers := by
  obtain ⟨before, n, rfl⟩ := (List.eq_nil_or_concat' numbers).resolve_left nonempty
  rw [runningSums_append, List.sum_append, List.sum_singleton]
  exact List.mem_append_right _ (List.mem_singleton_self _)

theorem max?_append (numbers : List Int) (n : Int) :
    (numbers ++ [n]).max? = some ((numbers.max?.map (max · n)).getD n) := by
  cases numbers with
  | nil => rfl
  | cons first rest =>
      rw [List.cons_append, List.max?_cons', List.max?_cons', List.foldl_append]
      rfl

/-! ## One number -/

/-- The one action. -/
def adding : Action (Instance W Accumulator) where
  name := "add"
  inputs := [.one "in"]
  outputs := [.one "sum"]
  body := onModel add

/-- Any value is added, and the new total is written. -/
theorem response_data (behaviour : Behaviour (Instance W Accumulator))
    (self : Instance W Accumulator) (value : Value) :
    adding.response behaviour self [.data value] =
      some ({ self with model := (self.model.add [value]).1 },
        .ok (.one (.int (self.model.total + number value)))) := rfl

/-! ## The work of a host -/

/-- An accumulator at work, with a record of what came of it so far. -/
structure Account (W : Type) where
  site : Site W Accumulator
  /-- The values whose delivery was accepted, in order. -/
  accepted : List Value := []
  /-- The tokens that were drained, in order. -/
  drained : List Token := []
  /-- How many values had been taken when the actor was last restored. -/
  moved : Nat := 0
  /-- What the calls answered, in order. -/
  calls : List (Option (Except FiringError FireReport)) := []

/-- What a host does.  A whole move is to restore the actor and to rehouse its ports. -/
inductive Step (W : Type) where
  | deliver (value : Value)
  | drain
  | fire
  /-- A new actor takes over from a snapshot, on the same ports. -/
  | restore (host : Host W)
  /-- The ports are detached, and attached to another store. -/
  | rehouse (target : PortStore)

namespace Account

/-- The tokens queued on `in`. -/
def waiting (account : Account W) : List Token :=
  account.site.store.tokensOn account.site.self.actor .input "in"

/-- The tokens queued on `sum`. -/
def written (account : Account W) : List Token :=
  account.site.store.tokensOn account.site.self.actor .output "sum"

/-- The accepted values that are not queued any more. -/
def consumed (account : Account W) : List Value :=
  account.accepted.take (account.accepted.length - account.waiting.length)

/-- The numbers that these values count as. -/
def numbers (account : Account W) : List Int := account.consumed.map number

/-- The firings that the calls have reported, in order. -/
def firings (account : Account W) : List Firing :=
  account.calls.flatMap fun
    | some (.ok report) => report.firings
    | _ => []

/-- One step; restoring and rehousing may fail. -/
def follow (account : Account W) : Step W → Option (Account W)
  | .deliver value =>
    match account.site.store.deliver account.site.self.actor "in" (.data value) with
    | (store, .ok ()) =>
      some { account with
        site := { account.site with store }, accepted := account.accepted ++ [value] }
    | (store, .error _) => some { account with site := { account.site with store } }
  | .drain =>
    match account.site.store.drain account.site.self.actor "sum" with
    | (store, .ok tokens) =>
      some { account with
        site := { account.site with store }, drained := account.drained ++ tokens }
    | (store, .error _) => some { account with site := { account.site with store } }
  | .fire =>
    match (type.behaviour account.site.self.actor).call account.site.self account.site.store with
    | none => some { account with calls := account.calls ++ [none] }
    | some ⟨self, store, result⟩ =>
      some { account with site := ⟨self, store⟩, calls := account.calls ++ [some result] }
  | .restore host =>
    (account.site.restore type host).map fun site =>
      { account with site, moved := account.consumed.length }
  | .rehouse target => (account.site.rehouse target).map fun site => { account with site }

/-- Several steps, one after the other, if all of them succeed. -/
def travel : List (Step W) → Account W → Option (Account W)
  | [], account => some account
  | step :: rest, account => (account.follow step).bind (travel rest)

/-- Every point of a run, as far as its steps succeed. -/
def points : List (Step W) → Account W → List (Account W)
  | [], account => [account]
  | step :: rest, account => account :: ((account.follow step).map (points rest)).getD []

/-- A new accumulator, whose ports are empty. -/
structure Fresh (account : Account W) : Prop where
  model : account.site.self.model = {}
  input : ∃ queue, account.site.store.queue account.site.self.actor .input "in" = .ok queue
  output : ∃ queue, account.site.store.queue account.site.self.actor .output "sum" = .ok queue
  vacant : account.site.store.Vacant account.site.self.actor
  unused : account.accepted = [] ∧ account.drained = [] ∧ account.moved = 0 ∧ account.calls = []

end Account

/-- A step delivers a valid value if it delivers one at all. -/
def Step.Valid : Step W → Prop
  | deliver value => value.Valid
  | _ => True

/-- All running sums fit into 64 bits, and so does the count of the numbers. -/
def Small (numbers : List Int) : Prop :=
  (∀ sum ∈ runningSums numbers, FitsInt64 sum) ∧ numbers.length < 2 ^ 64

/-! ## The books -/

/-- The state of affairs when some values have been taken. -/
structure Booked (taken : List Value) (account : Account W) : Prop where
  /-- What was accepted are these values, and those that are queued on `in`. -/
  accepted : ∃ queued, account.accepted = taken ++ queued ∧
    account.waiting = queued.map Token.data
  /-- What was drained and what is queued on `sum` are the running sums. -/
  emitted : account.drained ++ account.written =
    (runningSums (taken.map number)).map fun sum => .data (.int sum)
  total : account.site.self.model.total = (taken.map number).sum
  count : account.site.self.model.stats.count = taken.length
  max : account.site.self.model.stats.max = (taken.map number).max?
  moved : account.moved ≤ taken.length
  /-- The history goes back to the last time that the actor was restored. -/
  history : account.site.self.model.history = (taken.map number).drop account.moved

variable {account : Account W} {taken : List Value} {actor : ActorRef}

theorem Booked.length_accepted (booked : Booked taken account) :
    account.accepted.length = taken.length + account.waiting.length := by
  obtain ⟨queued, accepted, waiting⟩ := booked.accepted
  rw [accepted, waiting, List.length_append, List.length_map]

/-- The values that have been taken are those that are not queued any more. -/
theorem Booked.consumed_eq (booked : Booked taken account) : account.consumed = taken := by
  have count : account.accepted.length - account.waiting.length = taken.length := by
    rw [booked.length_accepted]
    omega
  obtain ⟨queued, accepted, -⟩ := booked.accepted
  rw [Account.consumed, count, accepted, List.take_left]

/-- Fields that have not outgrown their types. -/
theorem Booked.fits (booked : Booked taken account) (small : Small (taken.map number)) :
    account.site.self.model.Fits := by
  obtain ⟨sums, count⟩ := small
  constructor
  · rw [booked.total]
    by_cases none : taken.map number = []
    · rw [none]
      decide
    · exact sums _ (sum_mem_runningSums none)
  · rw [booked.count]
    rwa [List.length_map] at count

/-- One more value is taken: it leaves `in`, the new total is written to `sum`, and the fields are
brought up to date. -/
theorem Booked.take (booked : Booked taken account) {value : Value} {queued : List Value}
    (accepted : account.accepted = taken ++ value :: queued) {site : Site W Accumulator}
    (waiting : ({ account with site } : Account W).waiting = queued.map Token.data)
    (written : ({ account with site } : Account W).written =
      account.written ++ [.data (.int (account.site.self.model.total + number value))])
    (model : site.self.model = (account.site.self.model.add [value]).1) :
    Booked (taken ++ [value]) { account with site } := by
  have numbers : (taken ++ [value]).map number = taken.map number ++ [number value] := by
    rw [List.map_append, List.map_singleton]
  constructor
  · refine ⟨queued, ?_, waiting⟩
    rw [accepted, List.append_assoc]
    rfl
  · rw [written, ← List.append_assoc, booked.emitted, numbers, runningSums_append, List.map_append,
      booked.total, List.map_singleton]
  · have total : site.self.model.total = account.site.self.model.total + number value := by
      rw [model]
      rfl
    rw [total, booked.total, numbers, List.sum_append, List.sum_singleton]
  · have count : site.self.model.stats.count = account.site.self.model.stats.count + 1 := by
      rw [model]
      rfl
    rw [count, booked.count, List.length_append, List.length_singleton]
  · have max : site.self.model.stats.max =
        some ((account.site.self.model.stats.max.map (Max.max · (number value))).getD
          (number value)) := by
      rw [model]
      rfl
    rw [max, booked.max, numbers, max?_append]
  · have moved : account.moved ≤ taken.length := booked.moved
    show account.moved ≤ (taken ++ [value]).length
    rw [List.length_append]
    omega
  · have history : site.self.model.history =
        account.site.self.model.history ++ [number value] := by
      rw [model]
      rfl
    have earlier : account.moved ≤ (taken.map number).length := by
      rw [List.length_map]
      exact booked.moved
    rw [history, booked.history, numbers, List.drop_append_of_le_length earlier]

/-- The books and what else is needed to go on. -/
structure Upright (actor : ActorRef) (taken : List Value) (account : Account W) : Prop where
  site : account.site.Sound Sound actor
  known : (adding : Action (Instance W Accumulator)).Known actor account.site.store
  booked : Booked taken account
  fired : account.firings.length = taken.length
  calls : ∀ call ∈ account.calls, ∃ report, call = some (.ok report)

theorem Account.Fresh.upright (fresh : account.Fresh) :
    Upright account.site.self.actor [] account where
  site :=
    { model := by
        intro n found
        rw [fresh.model] at found
        cases found
      identity := rfl
      ports := fresh.vacant.travels }
  known := by
    constructor
    · rintro _ (_ | ⟨_, ⟨⟩⟩)
      exact fresh.input
    · rintro _ (_ | ⟨_, ⟨⟩⟩)
      exact fresh.output
  booked := by
    obtain ⟨accepted, drained, moved, -⟩ := fresh.unused
    refine ⟨⟨[], accepted, fresh.vacant.tokensOn _ _⟩, ?_, ?_, ?_, ?_, moved.le, ?_⟩
    · rw [drained, Account.written, fresh.vacant.tokensOn]
      rfl
    · rw [fresh.model]
      rfl
    · rw [fresh.model]
      rfl
    · rw [fresh.model]
      rfl
    · rw [fresh.model, moved]
      rfl
  fired := by
    rw [Account.firings, fresh.unused.2.2.2]
    rfl
  calls call member := by
    rw [fresh.unused.2.2.2] at member
    cases member

/-! ## Deliveries and drains -/

/-- A value that is accepted is queued behind the others. -/
theorem Upright.deliver (upright : Upright actor taken account) {value : Value}
    (valid : value.Valid) :
    ∃ next, account.follow (.deliver value) = some next ∧ Upright actor taken next := by
  obtain ⟨⟨model, identity, ports⟩, known, booked, fired, calls⟩ := upright
  have travels : (account.site.store.deliver actor "in" (.data value)).1.Travels actor :=
    ports.deliver "in" valid
  obtain ⟨next, answer, delivery⟩ : ∃ next answer,
      account.site.store.deliver actor "in" (.data value) = (next, answer) := ⟨_, _, rfl⟩
  rw [delivery] at travels
  simp only [Account.follow, identity, delivery]
  cases answer with
  | error e =>
      obtain rfl := PortStore.deliver_refused delivery
      exact ⟨_, rfl, ⟨model, identity, ports⟩, known, booked, fired, calls⟩
  | ok _ =>
      have queued := PortStore.tokensOn_deliver delivery
      obtain rfl := PortStore.deliver_accepted delivery
      refine ⟨_, rfl, ⟨model, identity, travels⟩, known.mapSide, ?_, fired, calls⟩
      obtain ⟨⟨before, accepted, waiting⟩, emitted, total, count, max, moved, history⟩ := booked
      refine ⟨⟨before ++ [value], ?_, ?_⟩, ?_, total, count, max, moved, history⟩
      · rw [accepted, List.append_assoc]
      · simp only [Account.waiting, identity] at waiting ⊢
        rw [queued, waiting, List.map_append, List.map_singleton]
      · simp only [Account.written, identity] at emitted ⊢
        rw [PortStore.tokensOn, PortStore.queue_mapSide_of_ne _ _ (by simp), ← emitted,
          PortStore.tokensOn]

/-- What is drained was queued on `sum`. -/
theorem Upright.drain (upright : Upright actor taken account) :
    ∃ next, account.follow .drain = some next ∧ Upright actor taken next := by
  obtain ⟨⟨model, identity, ports⟩, known, booked, fired, calls⟩ := upright
  have travels := ports.drain "sum"
  have unread := PortStore.tokensOn_drain_input account.site.store actor "sum" "in"
  obtain ⟨next, answer, drain⟩ : ∃ next answer,
      account.site.store.drain actor "sum" = (next, answer) := ⟨_, _, rfl⟩
  rw [drain] at travels unread
  simp only [Account.follow, identity, drain]
  cases answer with
  | error e =>
      obtain rfl := PortStore.drain_failed drain
      exact ⟨_, rfl, ⟨model, identity, ports⟩, known, booked, fired, calls⟩
  | ok tokens =>
      obtain ⟨all, rfl⟩ :=
        PortStore.drain_answered (fun queue found => (ports .output "sum" queue found).1) drain
      refine ⟨_, rfl, ⟨model, identity, travels⟩, known.mapSide, ?_, fired, calls⟩
      obtain ⟨⟨queued, accepted, waiting⟩, emitted, total, count, max, moved, history⟩ := booked
      refine ⟨⟨queued, accepted, ?_⟩, ?_, total, count, max, moved, history⟩
      · simp only [Account.waiting, identity] at waiting ⊢
        rw [unread, waiting]
      · obtain ⟨queue, found⟩ : ∃ queue, account.site.store.queue actor .output "sum" = .ok queue :=
          known.outputs (.one "sum") (List.mem_singleton_self _)
        simp only [Account.written, identity] at emitted ⊢
        rw [PortStore.tokensOn_of_ok (PortStore.queue_mapSide_self _ found), ← emitted, all]
        simp

/-! ## Calls -/

/-- The books while a call is under way. -/
structure Tallying (actor : ActorRef) (account : Account W) (adder : Instance W Accumulator)
    (store : PortStore) : Prop where
  identity : adder.actor = actor
  clean : store.Unpeeked actor
  known : (adding : Action (Instance W Accumulator)).Known actor store
  booked : ∃ taken, Booked taken { account with site := ⟨adder, store⟩ }

variable {self : Instance W Accumulator} {store : PortStore}

/-- An action that is enabled finds the oldest value that was not taken yet. -/
theorem Tallying.oldest (tallying : Tallying actor account self store)
    (enabled : adding.Enabled actor self store) :
    ∃ taken value queued, Booked taken { account with site := ⟨self, store⟩ } ∧
      account.accepted = taken ++ value :: queued ∧
      store.tokensOn actor .input "in" = .data value :: queued.map Token.data := by
  obtain ⟨taken, booked⟩ := tallying.booked
  obtain ⟨queued, accepted, waiting⟩ := booked.accepted
  simp only [Account.waiting, tallying.identity] at accepted waiting
  obtain ⟨token, rest, first⟩ := PortStore.Holds.exists_waiting enabled.tokens
  cases queued with
  | nil =>
      rw [first] at waiting
      cases waiting
  | cons value queued => exact ⟨taken, value, queued, booked, accepted, waiting⟩

/-- What the action answers. -/
theorem Tallying.response (tallying : Tallying actor account self store)
    (enabled : adding.Enabled actor self store) :
    ∃ taken value queued, Booked taken { account with site := ⟨self, store⟩ } ∧
      account.accepted = taken ++ value :: queued ∧
      store.tokensOn actor .input "in" = .data value :: queued.map Token.data ∧
      adding.response (type.behaviour actor) self (store.reads actor [.one "in"]) =
        some ({ self with model := (self.model.add [value]).1 },
          .ok (.one (.int (self.model.total + number value)))) := by
  obtain ⟨taken, value, queued, booked, accepted, waiting⟩ := tallying.oldest enabled
  refine ⟨taken, value, queued, booked, accepted, waiting, ?_⟩
  rw [PortStore.reads_waiting waiting, response_data]

/-- A firing takes one value and books it. -/
theorem Tallying.fires (tallying : Tallying actor account self store) {values : List Value}
    {after : Instance W Accumulator}
    (fires : adding.Fires (type.behaviour actor) store self values after) :
    Tallying actor account after
      ((adding : Action (Instance W Accumulator)).effect actor values store) := by
  obtain ⟨taken, value, queued, booked, accepted, waiting, response⟩ :=
    tallying.response fires.toEnabled
  obtain ⟨result, answer, produced⟩ := fires.answer
  cases response.symm.trans answer
  cases produced
  obtain ⟨rfl, clean, known, -⟩ := tallying
  refine ⟨rfl, clean.effect _ _, known.mapSide.mapSide, taken ++ [value],
    booked.take accepted ?_ ?_ rfl⟩
  · have left := (adding : Action (Instance W Accumulator)).tokensOn_effect_input self.actor
      [.int (self.model.total + number value)] store "in"
    rw [waiting] at left
    exact left
  · exact Action.tokensOn_effect fires.toEnabled [.int (self.model.total + number value)] "sum"

/-- The books are kept in every call, and nothing in it fails. -/
theorem sustains (actor : ActorRef) (account : Account W) :
    (type.behaviour actor).Sustains adding (Tallying actor account) where
  only := rfl
  takes := Nat.one_pos
  clean tallying := tallying.clean
  known tallying := tallying.known
  dependable tallying enabled answered answer := by
    obtain ⟨taken, value, queued, -, -, -, response⟩ := tallying.response enabled
    cases response.symm.trans answer
    refine ⟨_, rfl, nofun, ?_⟩
    rintro _ ⟨⟩
    rfl
  fires tallying fires := tallying.fires fires

/-- Each firing takes one token. -/
theorem length_waiting {produced : List (List Value)} {last : Instance W Accumulator}
    {final : PortStore}
    (fired : adding.Firings (type.behaviour actor) self store produced last final) :
    (store.tokensOn actor .input "in").length =
      produced.length + (final.tokensOn actor .input "in").length := by
  induction fired with
  | nil => rw [List.length_nil, Nat.zero_add]
  | @cons _ _ _ store _ values _ fires _ ih =>
      obtain ⟨token, rest, first⟩ := PortStore.Holds.exists_waiting fires.tokens
      have left : ((adding : Action (Instance W Accumulator)).effect actor values store).tokensOn
          actor .input "in" = (store.tokensOn actor .input "in").drop 1 :=
        Action.tokensOn_effect_input adding actor values store "in"
      have count := congrArg List.length left
      have whole : (store.tokensOn actor .input "in").length = rest.length + 1 :=
        congrArg List.length first
      rw [List.length_drop] at count
      rw [List.length_cons]
      have others : (((adding : Action (Instance W Accumulator)).effect actor values
        store).tokensOn actor .input "in").length = _ := ih
      omega

/-- A call succeeds and books what it takes. -/
theorem Upright.fire (upright : Upright actor taken account) :
    ∃ next taken, account.follow .fire = some next ∧ Upright actor taken next := by
  obtain ⟨site, known, booked, fired, calls⟩ := upright
  have tallying : Tallying actor account account.site.self account.site.store :=
    ⟨site.identity, site.ports.unpeeked, known, taken, booked⟩
  obtain ⟨produced, last, final, report, ran, row, -, kept, outlines⟩ :=
    (sustains actor account).call tallying
  have sound := site.fire relocatable (account.site.store.budget actor + 1)
  rw [Site.fire, ActorType.fire, site.identity] at sound
  rw [Behaviour.call] at ran
  have budget : ((type : ActorType W Accumulator).behaviour actor).actor = actor := rfl
  rw [budget] at ran
  rw [ran] at sound
  obtain ⟨taken', booked'⟩ := kept.booked
  refine ⟨{ account with
    site := ⟨last, final⟩, calls := account.calls ++ [some (.ok report)] }, taken', ?_, ?_⟩
  · simp only [Account.follow, site.identity, Behaviour.call, budget, ran]
  · refine ⟨sound, kept.known, ?_, ?_, ?_⟩
    · exact ⟨booked'.accepted, booked'.emitted, booked'.total, booked'.count, booked'.max,
        booked'.moved, booked'.history⟩
    · have reported : report.firings.length = produced.length := by
        simpa using congrArg List.length outlines
      have before := booked.length_accepted
      have after := booked'.length_accepted
      have taken := length_waiting row
      simp only [Account.waiting, site.identity, kept.identity] at before after
      simp only [Account.firings, List.flatMap_append, List.length_append] at fired ⊢
      rw [List.flatMap_singleton]
      show _ + report.firings.length = taken'.length
      omega
    · intro call member
      rcases List.mem_append.1 member with before | now
      · exact calls call before
      · exact ⟨report, List.mem_singleton.1 now⟩

/-! ## Moves -/

/-- A new actor that takes over keeps the books, and begins a history of its own. -/
theorem Upright.restore (upright : Upright actor taken account)
    (small : Small account.numbers) (host : Host W) :
    ∃ next, account.follow (.restore host) = some next ∧ Upright actor taken next := by
  obtain ⟨site, known, booked, fired, calls⟩ := upright
  have consumed : account.consumed = taken := booked.consumed_eq
  rw [Account.numbers, consumed] at small
  obtain ⟨self, restored, ⟨⟨total, ⟨count, max, -⟩, -⟩, same⟩, untouched⟩ :=
    Site.exists_restore relocatable site (booked.fits small) host
  have identity : self.actor = actor := same.symm.trans site.identity
  have history : self.model.history = [] :=
    untouched Accumulator.history ⟨fun _ _ => rfl, fun _ _ => rfl, trivial⟩
  refine ⟨{ account with site := { account.site with self }, moved := taken.length }, ?_, ?_⟩
  · rw [Account.follow, restored, Option.map_some, consumed]
  refine ⟨⟨fun n found => site.model n (max.trans found), identity, site.ports⟩, known, ?_, fired,
    calls⟩
  obtain ⟨accepted, emitted, total', count', max', -, -⟩ := booked
  refine ⟨?_, ?_, total.symm.trans total', count.symm.trans count', max.symm.trans max',
    Nat.le_refl _, ?_⟩
  · simpa only [Account.waiting, identity, site.identity] using accepted
  · simpa only [Account.written, identity, site.identity] using emitted
  · show self.model.history = (taken.map number).drop taken.length
    rw [history, List.drop_of_length_le (by rw [List.length_map])]

/-- Ports that are attached elsewhere keep the books. -/
theorem Upright.rehouse (upright : Upright actor taken account) (target : PortStore) :
    ∃ next, account.follow (.rehouse target) = some next ∧ Upright actor taken next := by
  obtain ⟨site, known, booked, fired, calls⟩ := upright
  obtain ⟨queue, found⟩ := known.inputs (.one "in") (List.mem_singleton_self _)
  obtain ⟨store, attached, same⟩ := Site.exists_rehouse site found target
  refine ⟨{ account with site := { account.site with store } }, ?_, ?_⟩
  · rw [Account.follow, attached, Option.map_some]
  refine ⟨⟨site.model, site.identity, site.ports.congr same⟩, known.congr same, ?_, fired, calls⟩
  obtain ⟨accepted, emitted, total, count, max, moved, history⟩ := booked
  refine ⟨?_, ?_, total, count, max, moved, history⟩
  · simp only [Account.waiting, site.identity] at accepted ⊢
    rw [same.tokensOn]
    exact accepted
  · simp only [Account.written, site.identity] at emitted ⊢
    rw [same.tokensOn]
    exact emitted

/-! ## Runs -/

/-- Any step succeeds and keeps the books, as long as the numbers are small. -/
theorem Upright.follow (upright : Upright actor taken account) (small : Small account.numbers)
    {step : Step W} (valid : step.Valid) :
    ∃ next taken, account.follow step = some next ∧ Upright actor taken next := by
  cases step with
  | deliver value =>
      obtain ⟨next, followed, upright⟩ := upright.deliver valid
      exact ⟨next, taken, followed, upright⟩
  | drain =>
      obtain ⟨next, followed, upright⟩ := upright.drain
      exact ⟨next, taken, followed, upright⟩
  | fire => exact upright.fire
  | restore host =>
      obtain ⟨next, followed, upright⟩ := upright.restore small host
      exact ⟨next, taken, followed, upright⟩
  | rehouse target =>
      obtain ⟨next, followed, upright⟩ := upright.rehouse target
      exact ⟨next, taken, followed, upright⟩

theorem Upright.travel (upright : Upright actor taken account) (steps : List (Step W))
    (valid : ∀ step ∈ steps, step.Valid)
    (small : ∀ point ∈ account.points steps, Small point.numbers) :
    ∃ last taken, account.travel steps = some last ∧ Upright actor taken last := by
  induction steps generalizing account taken with
  | nil => exact ⟨account, taken, rfl, upright⟩
  | cons step rest ih =>
      rw [Account.points] at small
      obtain ⟨next, taken', followed, upright'⟩ :=
        upright.follow (small account (List.mem_cons_self ..)) (valid step (List.mem_cons_self ..))
      rw [followed] at small
      obtain ⟨last, taken'', travelled, upright''⟩ := ih upright'
        (fun other member => valid other (List.mem_cons_of_mem _ member))
        fun point member => small point (List.mem_cons_of_mem _ member)
      refine ⟨last, taken'', ?_, upright''⟩
      rw [Account.travel, followed, Option.bind_some, travelled]

/-- Whatever is delivered to a new accumulator, and however it is worked and moved, as long as the
running sums and the count of the numbers fit into 64 bits: every step succeeds; what was drained
and what is queued on `sum` are together the running sums of the consumed numbers, in order, of
which the fields keep the sum, the count and the greatest; what was accepted is what was consumed
and what is queued on `in`; the history holds what was consumed since the actor was last restored;
and no call has failed, one firing having been reported for each consumed value. -/
theorem Account.travel_booked (fresh : account.Fresh) (steps : List (Step W))
    (valid : ∀ step ∈ steps, step.Valid)
    (small : ∀ point ∈ account.points steps, Small point.numbers) :
    ∃ last, account.travel steps = some last ∧ Booked last.consumed last ∧
      last.firings.length = last.consumed.length ∧
      ∀ call ∈ last.calls, ∃ report, call = some (.ok report) := by
  obtain ⟨last, taken, travelled, upright⟩ := fresh.upright.travel steps valid small
  have consumed : last.consumed = taken := upright.booked.consumed_eq
  refine ⟨last, travelled, ?_, ?_, upright.calls⟩
  · rw [consumed]
    exact upright.booked
  · rw [consumed]
    exact upright.fired

/-- A new accumulator with room for three values on the one side and for one total on the other. -/
def Account.narrow : Account Unit where
  site :=
    { self := Behaviour.bareInstance ⟨"a"⟩ {}
      store := ((({} : PortStore).addPort 0 ⟨"a"⟩ .input "in" (some (.bounded 3))).value.1.addPort 0
        ⟨"a"⟩ .output "sum" (some (.bounded 1))).value.1 }

theorem Account.fresh_narrow : narrow.Fresh where
  model := rfl
  input := ⟨_, rfl⟩
  output := ⟨_, rfl⟩
  vacant := (PortStore.vacant_empty.addPort (by simp [Capacity.Portable]) 0 .input "in").addPort
    (by simp [Capacity.Portable]) 0 .output "sum"
  unused := ⟨rfl, rfl, rfl, rfl⟩

/-- A number, a value that is none, and another number.  The out-port holds the calls up, and the
actor moves while two values are still waiting. -/
def interrupted : List (Step Unit) :=
  [.deliver (.int 5), .deliver (.bool true), .deliver (.int (-2)), .fire, .restore ⟨{}, {}, ()⟩,
    .rehouse {}, .drain, .fire, .drain, .fire]

theorem Account.narrow_booked : ∃ last, narrow.travel interrupted = some last ∧
    Booked last.consumed last ∧ last.numbers = [5, 0, -2] ∧
    last.drained = [.data (.int 5), .data (.int 5)] ∧ last.written = [.data (.int 3)] ∧
    last.site.self.model.total = 3 ∧ last.site.self.model.history = [0, -2] := by
  have valid : ∀ step ∈ interrupted, step.Valid := by
    intro step member
    simp only [interrupted, List.mem_cons, List.not_mem_nil, or_false] at member
    rcases member with rfl | rfl | rfl | rfl | rfl | rfl | rfl | rfl | rfl | rfl
    all_goals simp [Step.Valid, Value.Valid, Value.leastInt, Value.greatestInt]
  have reached : (narrow.points interrupted).map Account.numbers =
      [[], [], [], [], [5], [5], [5], [5], [5, 0], [5, 0], [5, 0, -2]] := rfl
  have small : ∀ point ∈ narrow.points interrupted, Small point.numbers := by
    intro point member
    have listed := List.mem_map_of_mem (f := Account.numbers) member
    rw [reached] at listed
    simp only [List.mem_cons, List.not_mem_nil, or_false] at listed
    rcases listed with same | same | same | same | same | same | same | same | same | same | same
    all_goals
      rw [same]
      simp [Small, runningSums, FitsInt64]
  obtain ⟨last, travelled, booked, -, -⟩ := travel_booked fresh_narrow interrupted valid small
  obtain ⟨final, ran, numbers, drained, written, total, history⟩ : ∃ final,
      narrow.travel interrupted = some final ∧ final.numbers = [5, 0, -2] ∧
      final.drained = [.data (.int 5), .data (.int 5)] ∧ final.written = [.data (.int 3)] ∧
      final.site.self.model.total = 3 ∧ final.site.self.model.history = [0, -2] :=
    ⟨_, rfl, rfl, rfl, rfl, rfl, rfl⟩
  obtain rfl := Option.some.inj (travelled.symm.trans ran)
  exact ⟨last, travelled, booked, numbers, drained, written, total, history⟩

end Dataflow.Actors.Accumulator
