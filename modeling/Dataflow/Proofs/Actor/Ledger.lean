import Dataflow.Proofs.Actor.FetcherMoves

/-!
# The account of a fetcher's run

What is pushed to the script of a fetcher, and what is drained from its port `data`, is kept in a
ledger, through any number of firings and moves.  The ledger is balanced if the values taken from
the script are, in their order, those drained, then those queued on the port, then the buffered one.

* `Ledger.step_balanced` — a step keeps the ledger balanced, unless it moves a buffered null.
* `Ledger.always_balanced_iff` — a run keeps it balanced at every point just if no move in it
  happens with a null buffered; moves succeed, and keep every response but null.
* `Ledger.null_lost` — a run in which a null gets lost.
-/

namespace Dataflow

open Actors Actors.Fetcher

/-! ## Runs -/

/-- A fetcher with its ports, and the account of what went in and out. -/
structure Ledger where
  site : Site DeviceWorld Fetcher
  /-- The values pushed to the script so far. -/
  pushed : List Value
  /-- The tokens drained from the port so far. -/
  drained : List Token

/-- A step in the life of a fetcher. -/
inductive FetcherStep where
  | push (value : Value)
  | setWritable (writable : Bool)
  | deliver (token : Token)
  | fire (limit : Nat)
  | drain
  | willMigrate
  | didMigrate
  | move

/-- A step brings in valid values only. -/
def FetcherStep.Valid : FetcherStep → Prop
  | push value => value.Valid
  | deliver token => token.Valid
  | _ => True

/-- The values that a step pushes to the script. -/
def FetcherStep.pushes : FetcherStep → List Value
  | push value => [value]
  | _ => []

namespace Ledger

/-- Changes the state of the script. -/
def onScript (place : Nat) (change : Script → Script) (self : Instance DeviceWorld Fetcher) :
    Instance DeviceWorld Fetcher :=
  let world := self.context.world
  { self with
    context :=
      { self.context with world := world.setScript place (change (world.script place)) } }

/-- The ledger with another state of the fetcher. -/
def withSelf (ledger : Ledger) (self : Instance DeviceWorld Fetcher) : Ledger :=
  { ledger with site := { ledger.site with self } }

/-- Performs a step; only a move can fail. -/
def step (settings : Settings) (place : Nat) (ledger : Ledger) : FetcherStep → Option Ledger
  | .push value =>
    some { ledger.withSelf (onScript place (·.push value) ledger.site.self) with
      pushed := ledger.pushed ++ [value] }
  | .setWritable writable =>
    some (ledger.withSelf
      (onScript place (fun script => { script with writable }) ledger.site.self))
  | .deliver token =>
    some { ledger with site := (ledger.site.perform type (.deliver "url" token)).1 }
  | .fire limit => some { ledger with site := (ledger.site.perform type (.fire limit)).1 }
  | .drain =>
    let (store, result) := ledger.site.store.drain ledger.site.self.actor "data"
    some { ledger with
      site := { ledger.site with store }
      drained := ledger.drained ++ result.toOption.getD [] }
  | .willMigrate => some (ledger.withSelf (type.prepareMove settings ledger.site.self).value.1)
  | .didMigrate => some (ledger.withSelf (type.resume ledger.site.self).value.1)
  | .move => (relocate settings ledger.site).map fun site => { ledger with site }

/-- The values taken from the script are those drained, those queued and the buffered one. -/
def Balanced (place : Nat) (actor : ActorRef) (ledger : Ledger) : Prop :=
  ∃ taken, ledger.pushed = taken ++ ledger.site.self.context.unread place ∧
    ledger.drained ++ ledger.site.store.tokensOn actor .output "data" ++
      ledger.site.self.model.response.toList.map Token.data = taken.map Token.data

/-- A property of the ledger at every point of a run. -/
def Always (settings : Settings) (place : Nat) (property : Ledger → Prop) :
    List FetcherStep → Ledger → Prop
  | [], ledger => property ledger
  | first :: rest, ledger =>
    property ledger ∧ ∀ next, ledger.step settings place first = some next →
      Always settings place property rest next

/-- A property of the ledger before every move of a run. -/
def BeforeMoves (settings : Settings) (place : Nat) (property : Ledger → Prop) :
    List FetcherStep → Ledger → Prop
  | [], _ => True
  | first :: rest, ledger =>
    ∀ next, ledger.step settings place first = some next →
      (first = .move → property ledger) ∧ BeforeMoves settings place property rest next

variable {settings : Settings} {place : Nat} {actor : ActorRef} {ledger next : Ledger}

/-! ## The account -/

/-- Everything that was drained or is still on its way. -/
def account (place : Nat) (actor : ActorRef) (ledger : Ledger) : List Token :=
  ledger.drained ++ inFlight place actor ledger.site.self ledger.site.store

theorem data_injective : Function.Injective Token.data := fun _ _ same => by
  cases same
  rfl

/-- The ledger is balanced if what was pushed was drained or is still on its way. -/
theorem balanced_iff : ledger.Balanced place actor ↔
    ledger.account place actor = ledger.pushed.map Token.data := by
  have split : ledger.account place actor =
      (ledger.drained ++ ledger.site.store.tokensOn actor .output "data" ++
        ledger.site.self.model.response.toList.map Token.data) ++
        (ledger.site.self.context.unread place).map Token.data := by
    rw [account, inFlight, held, List.map_append]
    simp only [List.append_assoc]
  rw [split]
  constructor
  · rintro ⟨taken, pushed, taking⟩
    rw [taking, pushed, List.map_append]
  · intro same
    obtain ⟨taken, rest, pushed, taking, left⟩ := List.map_eq_append_iff.1 same.symm
    obtain rfl := List.map_injective_iff.2 data_injective left
    exact ⟨taken, pushed, taking.symm⟩

/-- The fetcher and its ports are as a run needs them. -/
structure Sound (place : Nat) (actor : ActorRef) (ledger : Ledger) : Prop where
  fetcher : Coherent place actor ledger.site.self
  ports : ledger.site.store.Travels actor

/-- What a step other than a move does to the account. -/
structure Accounts (place : Nat) (actor : ActorRef) (ledger : Ledger) (values : List Value)
    (next : Ledger) : Prop extends Sound place actor next where
  pushed : next.pushed = ledger.pushed ++ values
  account : next.account place actor = ledger.account place actor ++ values.map Token.data

/-- Such a step keeps a ledger balanced. -/
theorem Accounts.balanced {values : List Value} (h : Accounts place actor ledger values next)
    (balanced : ledger.Balanced place actor) : next.Balanced place actor := by
  rw [balanced_iff] at balanced ⊢
  rw [h.account, h.pushed, balanced, List.map_append]

/-- A change of the script's state appends to the values to be read. -/
theorem onScript_accounts (h : ledger.Sound place actor) {change : Script → Script}
    {values : List Value} (valid : ∀ value ∈ values, value.Valid)
    (appends : ∀ script, (change script).reads = script.reads ++ values) :
    Accounts place actor ledger values
      { ledger.withSelf (onScript place change ledger.site.self) with
        pushed := ledger.pushed ++ values } := by
  have leaves := h.fetcher.onScript.leaves_setScript
    (change (ledger.site.self.context.world.script place))
  rw [appends] at leaves
  refine ⟨⟨⟨h.fetcher.identity, h.fetcher.registered, leaves.toOnScript, h.fetcher.timeout,
    h.fetcher.response, fun value member => ?_⟩, h.ports⟩, rfl, ?_⟩
  · have there : value ∈ ledger.site.self.context.unread place ++ values :=
      leaves.unread ▸ member
    rcases List.mem_append.1 there with old | new
    · exact h.fetcher.unread value old
    · exact valid value new
  · have unread : (onScript place change ledger.site.self).context.unread place =
        ledger.site.self.context.unread place ++ values := leaves.unread
    rw [account, account, inFlight, inFlight, held, held]
    show ledger.drained ++ (_ ++ (_ ++ (onScript place change
      ledger.site.self).context.unread place).map Token.data) = _
    rw [unread]
    simp only [List.map_append, List.append_assoc]
    rfl

/-- A hook keeps the account. -/
theorem withSelf_accounts (h : ledger.Sound place actor) {self : Instance DeviceWorld Fetcher}
    (rests : Rests place actor ledger.site.self self) :
    Accounts place actor ledger [] (ledger.withSelf self) := by
  refine ⟨⟨rests.toCoherent, h.ports⟩, (List.append_nil _).symm, ?_⟩
  rw [List.map_nil, List.append_nil, account, account, inFlight, inFlight]
  show ledger.drained ++ (_ ++ (held place self).map Token.data) = _
  rw [rests.held]
  rfl

/-- A delivery is on the other side of the fetcher. -/
theorem deliver_accounts (h : ledger.Sound place actor) {token : Token} (valid : token.Valid) :
    Accounts place actor ledger []
      { ledger with site := (ledger.site.perform type (.deliver "url" token)).1 } := by
  have queued : (ledger.site.store.deliver actor "url" token).1.tokensOn actor .output "data" =
      ledger.site.store.tokensOn actor .output "data" := by
    rw [PortStore.deliver]
    cases found : ledger.site.store.queue actor .input "url" with
    | error e => rw [PortStore.onQueue_of_error found]
    | ok queue =>
        rw [PortStore.onQueue_of_ok found, PortStore.tokensOn,
          PortStore.queue_mapSide_of_ne _ _ (by simp), PortStore.tokensOn]
  have same : (ledger.site.perform type (.deliver "url" token)).1 =
      { ledger.site with store := (ledger.site.store.deliver actor "url" token).1 } := by
    rw [← h.fetcher.identity]
    rfl
  rw [same]
  refine ⟨⟨h.fetcher, h.ports.deliver "url" valid⟩, (List.append_nil _).symm, ?_⟩
  rw [List.map_nil, List.append_nil, account, account, inFlight, inFlight, queued]

/-- Firing moves values on, without loss and in order. -/
theorem fire_accounts (h : ledger.Sound place actor) (limit : Nat) :
    Accounts place actor ledger []
      { ledger with site := (ledger.site.perform type (.fire limit)).1 } := by
  have start := And.intro h.fetcher (And.intro h.ports
    (rfl : inFlight place actor ledger.site.self ledger.site.store = _))
  have kept : Coherent place actor (ledger.site.fire type limit).1.self ∧
      (ledger.site.fire type limit).1.store.Travels actor ∧
      inFlight place actor (ledger.site.fire type limit).1.self
        (ledger.site.fire type limit).1.store =
          inFlight place actor ledger.site.self ledger.site.store := by
    rw [Site.fire, ActorType.fire, h.fetcher.identity]
    cases ran : ((type.behaviour actor).fire limit ledger.site.self ledger.site.store).value with
    | none => exact start
    | some outcome => exact Behaviour.fire_keeps (fire_keeps place actor _) start ran
  obtain ⟨coherent, travels, same⟩ := kept
  refine ⟨⟨coherent, travels⟩, (List.append_nil _).symm, ?_⟩
  rw [List.map_nil, List.append_nil]
  exact congrArg (ledger.drained ++ ·) same

/-- Draining takes what is queued. -/
theorem drain_accounts (h : ledger.Sound place actor) :
    Accounts place actor ledger []
      { site :=
          { ledger.site with
            store := (ledger.site.store.drain ledger.site.self.actor "data").1 }
        pushed := ledger.pushed
        drained := ledger.drained ++
          (ledger.site.store.drain ledger.site.self.actor "data").2.toOption.getD [] } := by
  rw [h.fetcher.identity]
  have taken : (ledger.site.store.drain actor "data").2.toOption.getD [] ++
      (ledger.site.store.drain actor "data").1.tokensOn actor .output "data" =
        ledger.site.store.tokensOn actor .output "data" := by
    rw [PortStore.drain]
    cases found : ledger.site.store.queue actor .output "data" with
    | error e =>
        rw [PortStore.onQueue_of_error found, PortStore.tokensOn, found]
        rfl
    | ok queue =>
        have settled : queue.pending = 0 := (h.ports .output "data" queue found).1
        rw [PortStore.onQueue_of_ok found,
          PortStore.tokensOn_of_ok (PortStore.queue_mapSide_self _ found),
          PortStore.tokensOn_of_ok found, PortStore.onlyAt, if_pos rfl]
        simp [Queue.drain, settled, Except.toOption]
  refine ⟨⟨h.fetcher, h.ports.drain "data"⟩, (List.append_nil _).symm, ?_⟩
  rw [List.map_nil, List.append_nil, account, account, inFlight, inFlight]
  show (ledger.drained ++ _) ++ _ = _
  rw [← taken]
  simp only [List.append_assoc]

/-- What a move does to the account: a buffered null is lost. -/
theorem move_account {arrived : Site DeviceWorld Fetcher}
    (arrives : Arrives place actor ledger.site arrived) :
    ({ ledger with site := arrived } : Ledger).account place actor =
      ledger.drained ++ ledger.site.store.tokensOn actor .output "data" ++
        ((carried ledger.site.self.model.response).toList ++
          ledger.site.self.context.unread place).map Token.data := by
  rw [account, inFlight, held]
  show ledger.drained ++ (arrived.store.tokensOn actor .output "data" ++
    (arrived.self.model.response.toList ++ arrived.self.context.unread place).map Token.data) = _
  rw [arrives.carriedResponse, arrives.sameUnread, PortStore.tokensOn, PortStore.tokensOn,
    PortStore.queue_congr arrives.ports, List.append_assoc]

/-- A move keeps a balanced ledger balanced just if no null was buffered. -/
theorem move_balanced_iff (balanced : ledger.Balanced place actor)
    {arrived : Site DeviceWorld Fetcher} (arrives : Arrives place actor ledger.site arrived) :
    ({ ledger with site := arrived } : Ledger).Balanced place actor ↔
      ledger.site.self.model.response ≠ some .null := by
  rw [balanced_iff] at balanced
  rw [balanced_iff, move_account arrives]
  show _ = ledger.pushed.map Token.data ↔ _
  rw [← balanced, account, inFlight, held, ← List.append_assoc]
  constructor
  · intro same null
    have shorter := congrArg List.length same
    rw [null] at shorter
    simp [carried] at shorter
  · intro other
    rw [carried_eq_self other]

/-! ## Runs of a fetcher -/

/-- What each step comes to. -/
theorem step_cases (h : ledger.Sound place actor) {first : FetcherStep} (valid : first.Valid)
    (stepped : ledger.step settings place first = some next) :
    (first ≠ .move ∧ Accounts place actor ledger first.pushes next) ∨
      (first = .move ∧ ∃ arrived, next = { ledger with site := arrived } ∧
        Arrives place actor ledger.site arrived) := by
  cases first with
  | push value =>
      cases stepped
      refine Or.inl ⟨by simp, onScript_accounts h ?_ fun script => rfl⟩
      intro other member
      rw [List.mem_singleton.1 member]
      exact valid
  | setWritable writable =>
      cases stepped
      let change : Script → Script := fun script => { script with writable }
      have appends : ∀ script, (change script).reads = script.reads ++ [] :=
        fun script => (List.append_nil _).symm
      have accounts := onScript_accounts h (fun _ member => by cases member) appends
      rw [List.append_nil] at accounts
      exact Or.inl ⟨by simp, accounts⟩
  | deliver token =>
      cases stepped
      exact Or.inl ⟨by simp, deliver_accounts h valid⟩
  | fire limit =>
      cases stepped
      exact Or.inl ⟨by simp, fire_accounts h limit⟩
  | drain =>
      cases stepped
      exact Or.inl ⟨by simp, drain_accounts h⟩
  | willMigrate =>
      cases stepped
      obtain ⟨after, ran, rests⟩ := prepareMove_rests h.fetcher settings
      rw [ran]
      exact Or.inl ⟨by simp, withSelf_accounts h rests⟩
  | didMigrate =>
      cases stepped
      obtain ⟨after, ran, rests⟩ := resume_rests h.fetcher
      rw [ran]
      exact Or.inl ⟨by simp, withSelf_accounts h rests⟩
  | move =>
      obtain ⟨arrived, moved, rfl⟩ := Option.map_eq_some_iff.1 stepped
      obtain ⟨arrived', moved', arrives⟩ := relocate_arrives h.fetcher h.ports
        (small_of_relocate h.fetcher moved) settings
      obtain rfl : arrived = arrived' := by simpa [moved] using moved'
      exact Or.inr ⟨rfl, arrived, rfl, arrives⟩

theorem step_pushed (h : ledger.Sound place actor) {first : FetcherStep} (valid : first.Valid)
    (stepped : ledger.step settings place first = some next) :
    next.pushed = ledger.pushed ++ first.pushes := by
  rcases step_cases h valid stepped with ⟨-, accounts⟩ | ⟨rfl, arrived, rfl, -⟩
  · exact accounts.pushed
  · exact (List.append_nil _).symm

theorem step_sound (h : ledger.Sound place actor) {first : FetcherStep} (valid : first.Valid)
    (stepped : ledger.step settings place first = some next) : next.Sound place actor := by
  rcases step_cases h valid stepped with ⟨-, accounts⟩ | ⟨-, arrived, rfl, arrives⟩
  · exact accounts.toSound
  · exact ⟨arrives.toCoherent, h.ports.congr arrives.ports⟩

/-- A step keeps a balanced ledger balanced, unless it moves a buffered null. -/
theorem step_balanced (h : ledger.Sound place actor) (balanced : ledger.Balanced place actor)
    {first : FetcherStep} (valid : first.Valid)
    (stepped : ledger.step settings place first = some next) :
    next.Balanced place actor ↔
      (first = .move → ledger.site.self.model.response ≠ some .null) := by
  rcases step_cases h valid stepped with ⟨other, accounts⟩ | ⟨rfl, arrived, rfl, arrives⟩
  · exact ⟨fun _ move => absurd move other, fun _ => accounts.balanced balanced⟩
  · rw [move_balanced_iff balanced arrives]
    exact ⟨fun kept _ => kept, fun kept => kept rfl⟩

theorem always_now {property : Ledger → Prop} {steps : List FetcherStep}
    (h : ledger.Always settings place property steps) : property ledger := by
  cases steps with
  | nil => exact h
  | cons first rest => exact h.1

/-- What holds of all sound ledgers holds at every point. -/
theorem always_of_sound (h : ledger.Sound place actor) {property : Ledger → Prop}
    (all : ∀ {ledger : Ledger}, ledger.Sound place actor → property ledger)
    {steps : List FetcherStep} (valid : ∀ step ∈ steps, step.Valid) :
    ledger.Always settings place property steps := by
  induction steps generalizing ledger with
  | nil => exact all h
  | cons first rest ih =>
      refine ⟨all h, fun next stepped => ?_⟩
      exact ih (step_sound h (valid first (List.mem_cons_self ..)) stepped)
        fun step member => valid step (List.mem_cons_of_mem _ member)

theorem always_balanced_of_balanced (h : ledger.Sound place actor)
    (balanced : ledger.Balanced place actor) {steps : List FetcherStep}
    (valid : ∀ step ∈ steps, step.Valid) :
    ledger.Always settings place (Balanced place actor) steps ↔
      ledger.BeforeMoves settings place
        (fun ledger => ledger.site.self.model.response ≠ some .null) steps := by
  induction steps generalizing ledger with
  | nil => exact ⟨fun _ => trivial, fun _ => balanced⟩
  | cons first rest ih =>
      have here := valid first (List.mem_cons_self ..)
      have later := fun step member => valid step (List.mem_cons_of_mem first member)
      constructor
      · rintro ⟨-, all⟩ next stepped
        have kept := always_now (all next stepped)
        refine ⟨(step_balanced h balanced here stepped).1 kept, ?_⟩
        exact (ih (step_sound h here stepped) kept later).1 (all next stepped)
      · intro moves
        refine ⟨balanced, fun next stepped => ?_⟩
        have kept := (step_balanced h balanced here stepped).2 (moves next stepped).1
        exact (ih (step_sound h here stepped) kept later).2 (moves next stepped).2

/-- A buffered value is one that was pushed. -/
theorem response_pushed (balanced : ledger.Balanced place actor) {value : Value}
    (buffered : ledger.site.self.model.response = some value) : value ∈ ledger.pushed := by
  obtain ⟨taken, pushed, taking⟩ := balanced
  have there : Token.data value ∈ taken.map Token.data := by
    rw [← taking, buffered]
    exact List.mem_append_right _ (List.mem_cons_self ..)
  obtain ⟨other, member, same⟩ := List.mem_map.1 there
  rw [pushed, ← data_injective same]
  exact List.mem_append_left _ member

/-- No null is buffered if none is pushed. -/
theorem beforeMoves_of_pushes (h : ledger.Sound place actor)
    (balanced : ledger.Balanced place actor) {steps : List FetcherStep}
    (valid : ∀ step ∈ steps, step.Valid) (before : Value.null ∉ ledger.pushed)
    (pushes : Value.null ∉ steps.flatMap FetcherStep.pushes) :
    ledger.BeforeMoves settings place
      (fun ledger => ledger.site.self.model.response ≠ some .null) steps := by
  induction steps generalizing ledger with
  | nil => trivial
  | cons first rest ih =>
      rw [List.flatMap_cons, List.mem_append, not_or] at pushes
      intro next stepped
      have here := valid first (List.mem_cons_self ..)
      have other : ledger.site.self.model.response ≠ some .null :=
        fun null => before (response_pushed balanced null)
      refine ⟨fun _ => other, ih (step_sound h here stepped)
        ((step_balanced h balanced here stepped).2 fun _ => other)
        (fun step member => valid step (List.mem_cons_of_mem first member)) ?_ pushes.2⟩
      rw [step_pushed h here stepped, List.mem_append, not_or]
      exact ⟨before, pushes.1⟩

/-- A fetcher that was just created and started on a script, with new queues on its ports. -/
structure Fresh (place : Nat) (actor : ActorRef) (ledger : Ledger) : Prop where
  started : ∃ registry world idle config,
    registry.factories.get? capability = some (Device.script place).factory ∧
    place < world.scripts.length ∧ ledger.pushed = (world.script place).reads ∧
    (type.create actor registry world).value = .ok idle ∧
    (type.start idle config).value = (ledger.site.self, .ok ())
  ports : ledger.site.store.Vacant actor
  valid : ∀ value ∈ ledger.pushed, value.Valid
  drained : ledger.drained = []

/-- A new fetcher holds what was pushed to the script. -/
theorem Fresh.coherent (h : ledger.Fresh place actor) :
    Coherent place actor ledger.site.self ∧ held place ledger.site.self = ledger.pushed := by
  obtain ⟨registry, world, idle, config, registered, placed, pushed, created, started⟩ := h.started
  have idle_eq : Except.ok idle = .ok ⟨managed.default, ⟨{ actor }, registry, world⟩⟩ :=
    created.symm.trans (value_create registered)
  cases idle_eq
  have idle : Coherent place actor ⟨managed.default, ⟨{ actor }, registry, world⟩⟩ :=
    { identity := rfl
      registered := registered
      onScript := ⟨placed, fun entry member => by cases member⟩
      timeout := Nat.two_pow_pos 64
      response := fun value present => by cases present
      unread := fun value member => h.valid value (pushed ▸ member) }
  have rests := start_rests idle started
  exact ⟨rests.toCoherent, rests.held.trans pushed.symm⟩

theorem Fresh.sound (h : ledger.Fresh place actor) : ledger.Sound place actor :=
  ⟨h.coherent.1, h.ports.travels⟩

theorem Fresh.balanced (h : ledger.Fresh place actor) : ledger.Balanced place actor := by
  rw [balanced_iff, account, inFlight, h.drained, h.ports.tokensOn, h.coherent.2]
  rfl

/-- The ledger of a fetcher is balanced at every point of a run just if no move in it happens with
a null buffered.  At every point a move would succeed, as long as the count of requests has not
outgrown its type, and the response would be the same afterwards, except that null becomes
nothing. -/
theorem always_balanced_iff (fresh : ledger.Fresh place actor) (settings : Settings)
    (steps : List FetcherStep) (valid : ∀ step ∈ steps, step.Valid) :
    (ledger.Always settings place (Balanced place actor) steps ↔
      ledger.BeforeMoves settings place
        (fun ledger => ledger.site.self.model.response ≠ some .null) steps) ∧
    ledger.Always settings place (fun ledger => ledger.site.self.model.requests < 2 ^ 64 →
      ∃ moved, ledger.step settings place .move = some moved ∧
        moved.site.self.model.response = carried ledger.site.self.model.response) steps := by
  refine ⟨always_balanced_of_balanced fresh.sound fresh.balanced valid, ?_⟩
  refine always_of_sound fresh.sound (fun {other} sound small => ?_) valid
  obtain ⟨arrived, moved, arrives⟩ := relocate_arrives sound.fetcher sound.ports small settings
  refine ⟨{ other with site := arrived }, ?_, arrives.carriedResponse⟩
  rw [step, moved]
  rfl

/-- The ledger of a fetcher on a script to which no null is pushed is always balanced. -/
theorem always_balanced_of_pushes (fresh : ledger.Fresh place actor) {steps : List FetcherStep}
    (valid : ∀ step ∈ steps, step.Valid) (before : Value.null ∉ ledger.pushed)
    (pushes : Value.null ∉ steps.flatMap FetcherStep.pushes) :
    ledger.Always settings place (Balanced place actor) steps :=
  (always_balanced_of_balanced fresh.sound fresh.balanced valid).2
    (beforeMoves_of_pushes fresh.sound fresh.balanced valid before pushes)

/-! ## Two runs -/

/-- A new fetcher where an empty script is registered. -/
def idle : Instance DeviceWorld Fetcher :=
  ⟨managed.default, ⟨{ actor := ⟨"f"⟩ },
    ⟨⟨[(capability, (Device.script 0).factory)], List.pairwise_singleton _ _⟩⟩,
    { scripts := [{}] }⟩⟩

/-- The ledger of that fetcher when it has started, with one place on its port. -/
def opening : Ledger where
  site :=
    { self := (type.start idle (.object [("timeout_ms", .int 5)])).value.1
      store := (({} : PortStore).addPort 0 ⟨"f"⟩ .output "data" (some (.bounded 1))).value.1 }
  pushed := []
  drained := []

theorem fresh_opening : opening.Fresh 0 ⟨"f"⟩ where
  started := ⟨idle.context.registry, { scripts := [{}] }, idle,
    .object [("timeout_ms", .int 5)], rfl, by decide, rfl, rfl, rfl⟩
  ports := PortStore.vacant_empty.addPort (by simp [Capacity.Portable]) 0 .output "data"
  valid := fun value member => by cases member
  drained := rfl

/-- A number that is moved while it is buffered. -/
theorem number_kept : opening.Fresh 0 ⟨"f"⟩ ∧
    opening.Always {} 0 (Balanced 0 ⟨"f"⟩)
      [.push (.int 1), .push (.int 2), .fire 9, .move, .drain, .fire 9] := by
  refine ⟨fresh_opening, ?_⟩
  have valid : ∀ step ∈ [.push (.int 1), .push (.int 2), .fire 9, .move, .drain, .fire 9],
      FetcherStep.Valid step := by
    intro step member
    simp only [List.mem_cons, List.not_mem_nil, or_false] at member
    rcases member with rfl | rfl | rfl | rfl | rfl | rfl
    · exact ⟨by decide, by decide⟩
    · exact ⟨by decide, by decide⟩
    · trivial
    · trivial
    · trivial
    · trivial
  refine (always_balanced_iff fresh_opening {} _ valid).1.2 ?_
  exact beforeMoves_of_pushes fresh_opening.sound fresh_opening.balanced valid
    (by simp [opening]) (by simp [FetcherStep.pushes])

/-- A null that is moved while it is buffered. -/
theorem null_lost : opening.Fresh 0 ⟨"f"⟩ ∧
    ¬opening.Always {} 0 (Balanced 0 ⟨"f"⟩)
      [.push (.int 1), .push .null, .fire 9, .move] := by
  refine ⟨fresh_opening, fun all => ?_⟩
  have balanced : Balanced 0 ⟨"f"⟩ _ := (((all.2 _ rfl).2 _ rfl).2 _ rfl).2 _ rfl
  have same := congrArg List.length (balanced_iff.1 balanced)
  exact absurd same (by decide)

end Ledger

end Dataflow
