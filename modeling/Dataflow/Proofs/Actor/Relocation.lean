import Dataflow.Actors.Catalogue
import Dataflow.Proofs.Actor.Site

/-!
# Moves go unnoticed

Nine types of actors work on their managed fields alone, or on fields whose loss nobody notices.
Such an actor can be moved at any time, and whoever works it cannot tell.

* `Kind.relocatable` — the nine types keep the promises that `ActorType.Relocatable` asks for.
* `Kind.travel_unnoticed` — from every state that such an actor reaches, a run with moves succeeds
  and answers what the run without the moves does.
-/

namespace Dataflow

variable {W σ : Type}

/-! ## Actors that work on their fields -/

/-- The action looks at what `same` compares and at nothing else, and keeps the fields `sound`. -/
structure Action.WorksOn (same : σ → σ → Prop) (sound : σ → Prop)
    (action : Action (Instance W σ)) : Prop where
  guard : ∀ {here there : Instance W σ}, same here.model there.model →
    action.open? here = action.open? there
  inputGuard : ∀ {here there : Instance W σ}, same here.model there.model →
    ∀ values, action.accepts here values = action.accepts there values
  body : ∃ work, action.body = onModel work ∧
    (∀ {m n}, same m n → ∀ values, Alike same (work m values) (work n values)) ∧
    ∀ {m}, sound m → ∀ {values : List Value}, (∀ value ∈ values, value.Valid) →
      sound (work m values).1

/-- The handler for exception tokens works on the actor's own fields. -/
structure ActorType.HandlesOn (same : σ → σ → Prop) (sound : σ → Prop)
    (type : ActorType W σ) : Prop where
  handler : ∃ work : σ → String → String → σ × Except Failure ActionResult,
    (∀ (self : Instance W σ) name reason, (type.onException self name reason).value =
      ({ self with model := (work self.model name reason).1 },
        (work self.model name reason).2)) ∧
    (∀ {m n}, same m n → ∀ name reason, Alike same (work m name reason) (work n name reason)) ∧
    ∀ {m}, sound m → ∀ name reason, sound (work m name reason).1

namespace ActorType

variable {type : ActorType W σ} {same : σ → σ → Prop} {sound fits : σ → Prop}

/-- An actor that expects no exception tokens. -/
theorem handlesOn_unhandled
    (h : type.onException = fun self _ reason => pure (self, .error (unhandled reason))) :
    type.HandlesOn same sound where
  handler := by
    refine ⟨fun m _ reason => (m, .error (unhandled reason)), ?_, ?_, ?_⟩
    · intro self name reason
      rw [h]
      rfl
    · intro m n agree name reason
      exact ⟨agree, rfl⟩
    · intro m start name reason
      exact start

/-- Actors whose code works on the managed fields can move. -/
theorem relocatable_of_worksOn (requires : type.requires = [])
    (resumes : type.didMigrate = Hook.none) (lawful : type.managed.fields.Lawful)
    (keeps : ∀ {model}, sound model → fits model → type.managed.fields.Keeps model)
    (actions : ∀ action ∈ type.actions, action.WorksOn type.managed.fields.Agree sound)
    (handler : type.HandlesOn type.managed.fields.Agree sound) :
    type.Relocatable sound fits where
  requires := requires
  resumes := resumes
  lawful := lawful
  keeps := keeps
  actions action listed := by
    obtain ⟨guard, inputGuard, work, body, alike, -⟩ := actions action listed
    refine ⟨fun agree => guard agree.1, fun agree => inputGuard agree.1, fun agree values => ?_⟩
    rw [body]
    obtain ⟨after, answer⟩ := alike agree.1 values
    exact ⟨⟨after, agree.2⟩, answer⟩
  onException agree name reason := by
    obtain ⟨work, handles, alike, -⟩ := handler.handler
    rw [handles, handles]
    obtain ⟨after, answer⟩ := alike agree.1 name reason
    exact ⟨⟨after, agree.2⟩, answer⟩
  soundActions action listed self start values valid := by
    obtain ⟨-, -, work, body, -, kept⟩ := actions action listed
    rw [body]
    exact ⟨kept start valid, rfl⟩
  soundHandler start name reason := by
    obtain ⟨work, handles, -, kept⟩ := handler.handler
    rw [handles]
    exact ⟨kept start name reason, rfl⟩

end ActorType

/-- An action that looks at the fields only, all of which are managed. -/
theorem Action.worksOn_of_full {fields : ManagedFields σ} {sound : σ → Prop}
    {action : Action (Instance W σ)} (work : σ → List Value → σ × Except Failure ActionResult)
    (full : ∀ {m n}, fields.Agree m n → m = n)
    (guard : ∀ {here there : Instance W σ}, here.model = there.model →
      action.open? here = action.open? there)
    (inputGuard : ∀ {here there : Instance W σ}, here.model = there.model →
      ∀ values, action.accepts here values = action.accepts there values)
    (body : action.body = onModel work)
    (kept : ∀ {m}, sound m → ∀ {values : List Value}, (∀ value ∈ values, value.Valid) →
      sound (work m values).1) : action.WorksOn fields.Agree sound where
  guard agree := guard (full agree)
  inputGuard agree := inputGuard (full agree)
  body := by
    refine ⟨work, body, fun agree values => ?_, kept⟩
    rw [full agree]
    exact ⟨.refl fields _, rfl⟩

namespace Actors

/-! ## Accumulator -/

/-- The greatest number seen fits into 64 bits. -/
def Accumulator.Sound (self : Accumulator) : Prop :=
  ∀ n, self.stats.max = some n → -0x8000000000000000 ≤ n ∧ n ≤ 0x7fffffffffffffff

/-- The total and the count have not outgrown their types. -/
def Accumulator.Fits (self : Accumulator) : Prop :=
  (-0x8000000000000000 ≤ self.total ∧ self.total ≤ 0x7fffffffffffffff) ∧
    self.stats.count < 2 ^ 64

theorem Accumulator.lawful : Accumulator.managed.fields.Lawful := by
  refine ⟨fun _ _ => rfl, ⟨fun _ _ => rfl, trivial⟩, by decide, fun _ _ => rfl, trivial,
    List.not_mem_nil, ?_, trivial⟩
  exact ⟨fun _ _ => rfl, ⟨fun _ _ => rfl, trivial⟩, by decide, ManagedFields.lawful_single
    fun _ _ => rfl⟩

theorem Accumulator.keeps {self : Accumulator} (sound : self.Sound) (fits : self.Fits) :
    Accumulator.managed.fields.Keeps self := by
  obtain ⟨⟨least, greatest⟩, count⟩ := fits
  refine ⟨⟨_, Codec.keepsAs_signed least greatest⟩, ⟨⟨_, Codec.keepsAs_unsigned count⟩,
    Codec.keeps_option fun n present => ?_, trivial⟩, trivial⟩
  obtain ⟨least, greatest⟩ := sound n present
  exact ⟨.int n, Codec.keepsAs_signed least greatest, by simp⟩

/-- The history has no part in what is emitted, nor in the other fields. -/
theorem Accumulator.add_alike {m n : Accumulator} (h : Accumulator.managed.fields.Agree m n)
    (values : List Value) :
    Alike Accumulator.managed.fields.Agree (m.add values) (n.add values) := by
  obtain ⟨total, ⟨count, max, -⟩, -⟩ := h
  refine ⟨⟨?_, ⟨?_, ?_, trivial⟩, trivial⟩, ?_⟩
  · simp only [add, total]
  · simp only [add, count]
  · simp only [add, max]
  · simp only [add, total]

theorem Accumulator.add_sound {self : Accumulator} (h : self.Sound) (values : List Value) :
    (self.add values).1.Sound := by
  have number : ∀ n, (values.headD .null).asInt64?.getD 0 = n →
      -0x8000000000000000 ≤ n ∧ n ≤ 0x7fffffffffffffff := by
    rintro n rfl
    cases read : (values.headD .null).asInt64? with
    | none => decide
    | some m => exact Value.asInt64?_eq_some read
  obtain ⟨least, greatest⟩ := number _ rfl
  intro n found
  simp only [add, Option.some.injEq] at found
  subst found
  cases before : self.stats.max with
  | none => exact ⟨least, greatest⟩
  | some old =>
      have bounds := h old before
      simp only [Option.map_some, Option.getD_some]
      omega

theorem Accumulator.relocatable :
    (Accumulator.type : ActorType W Accumulator).Relocatable Sound Fits := by
  refine ActorType.relocatable_of_worksOn rfl rfl lawful keeps ?_
    (ActorType.handlesOn_unhandled rfl)
  intro action listed
  obtain rfl := List.mem_singleton.1 listed
  refine ⟨fun _ => rfl, fun _ _ => rfl, add, rfl, add_alike, ?_⟩
  intro self sound values _
  exact add_sound sound values

/-! ## Doubler -/

/-- The count has not outgrown its type. -/
def Doubler.Fits (self : Doubler) : Prop := self.fired < 2 ^ 64

theorem Doubler.relocatable :
    (Doubler.type : ActorType W Doubler).Relocatable (fun _ => True) Fits := by
  refine ActorType.relocatable_of_worksOn rfl rfl (ManagedFields.lawful_single fun _ _ => rfl)
    (fun _ fits => ⟨⟨_, Codec.keepsAs_unsigned fits⟩, trivial⟩) ?_
    (ActorType.handlesOn_unhandled rfl)
  intro action listed
  obtain rfl := List.mem_singleton.1 listed
  exact Action.worksOn_of_full double (fun agree => congrArg Doubler.mk agree.1) (fun _ => rfl)
    (fun _ _ => rfl) rfl fun _ _ _ => trivial

/-! ## EvenPass and Splitter -/

theorem EvenPass.relocatable :
    (EvenPass.type : ActorType W EvenPass).Relocatable (fun _ => True) (fun _ => True) := by
  refine ActorType.relocatable_of_worksOn rfl rfl trivial (fun _ _ => trivial) ?_
    (ActorType.handlesOn_unhandled rfl)
  intro action listed
  obtain rfl := List.mem_singleton.1 listed
  exact Action.worksOn_of_full (fun self values => (self, .ok (.produced values))) (fun _ => rfl)
    (fun _ => rfl) (fun _ _ => rfl) rfl fun _ _ _ => trivial

theorem Splitter.relocatable :
    (Splitter.type : ActorType W Splitter).Relocatable (fun _ => True) (fun _ => True) := by
  refine ActorType.relocatable_of_worksOn rfl rfl trivial (fun _ _ => trivial) ?_
    (ActorType.handlesOn_unhandled rfl)
  intro action listed
  obtain rfl := List.mem_singleton.1 listed
  exact Action.worksOn_of_full split (fun _ => rfl) (fun _ => rfl) (fun _ _ => rfl) rfl
    fun _ _ _ => trivial

/-! ## Gate -/

theorem Gate.relocatable :
    (Gate.type : ActorType W Gate).Relocatable (fun _ => True) (fun _ => True) := by
  refine ActorType.relocatable_of_worksOn rfl rfl (ManagedFields.lawful_single fun _ _ => rfl)
    (fun _ _ => ⟨⟨_, Codec.keepsAs_bool _⟩, trivial⟩) ?_ (ActorType.handlesOn_unhandled rfl)
  intro action listed
  obtain rfl := List.mem_singleton.1 listed
  exact Action.worksOn_of_full forward (fun agree => congrArg Gate.mk agree.1) (fun _ => rfl)
    (fun _ _ => rfl) rfl fun _ _ _ => trivial

/-! ## Resilient -/

/-- Lists of strings are kept. -/
theorem keeps_strings (items : List String) : Codec.string.list.Keeps items :=
  Codec.keeps_list fun _ _ => ⟨_, Codec.keepsAs_string _⟩

theorem Resilient.handles : (Resilient.type : ActorType W Resilient).HandlesOn
    Resilient.managed.fields.Agree (fun _ => True) where
  handler := by
    refine ⟨fun m _ reason => (⟨m.recovered ++ [reason]⟩, .ok (.one (recovery reason))),
      fun _ _ _ => rfl, ?_, fun _ _ _ => trivial⟩
    intro m n agree name reason
    have same : m.recovered = n.recovered := agree.1
    refine ⟨⟨?_, trivial⟩, rfl⟩
    show m.recovered ++ [reason] = n.recovered ++ [reason]
    rw [same]

theorem Resilient.relocatable :
    (Resilient.type : ActorType W Resilient).Relocatable (fun _ => True) (fun _ => True) := by
  refine ActorType.relocatable_of_worksOn rfl rfl (ManagedFields.lawful_single fun _ _ => rfl)
    (fun _ _ => ⟨keeps_strings _, trivial⟩) ?_ Resilient.handles
  intro action listed
  obtain rfl := List.mem_singleton.1 listed
  exact Action.worksOn_of_full (fun self values => (self, .ok (.produced values)))
    (fun agree => congrArg Resilient.mk agree.1) (fun _ => rfl) (fun _ _ => rfl) rfl
    fun _ _ _ => trivial

/-! ## Prioritized -/

theorem Prioritized.worksOn_action (name : String) :
    (Prioritized.action name : Action (Instance W Prioritized)).WorksOn
      Prioritized.managed.fields.Agree (fun _ => True) :=
  Action.worksOn_of_full (label name) (fun agree => congrArg Prioritized.mk agree.1) (fun _ => rfl)
    (fun _ _ => rfl) rfl fun _ _ _ => trivial

theorem Prioritized.relocatable :
    (Prioritized.type : ActorType W Prioritized).Relocatable (fun _ => True)
      (fun _ => True) := by
  refine ActorType.relocatable_of_worksOn rfl rfl (ManagedFields.lawful_single fun _ _ => rfl)
    (fun _ _ => ⟨keeps_strings _, trivial⟩) ?_ (ActorType.handlesOn_unhandled rfl)
  intro action listed
  rcases List.mem_cons.1 listed with rfl | listed
  · exact worksOn_action "a"
  · rcases List.mem_cons.1 listed with rfl | listed
    · exact worksOn_action "b"
    · obtain rfl := List.mem_singleton.1 listed
      exact worksOn_action "c"

/-! ## Rearming -/

theorem Rearming.relocatable :
    (Rearming.type : ActorType W Rearming).Relocatable (fun _ => True) (fun _ => True) := by
  have full : ∀ {m n}, Rearming.managed.fields.Agree m n → m = n :=
    fun agree => congrArg Rearming.mk agree.1
  refine ActorType.relocatable_of_worksOn rfl rfl (ManagedFields.lawful_single fun _ _ => rfl)
    (fun _ _ => ⟨⟨_, Codec.keepsAs_bool _⟩, trivial⟩) ?_ (ActorType.handlesOn_unhandled rfl)
  intro action listed
  rcases List.mem_cons.1 listed with rfl | listed
  · exact Action.worksOn_of_full prime full (fun same => congrArg armed same) (fun _ _ => rfl) rfl
      fun _ _ _ => trivial
  · rcases List.mem_cons.1 listed with rfl | listed
    · exact Action.worksOn_of_full consume full
        (fun same => congrArg (fun self : Rearming => !self.armed) same) (fun _ _ => rfl) rfl
        fun _ _ _ => trivial
    · obtain rfl := List.mem_singleton.1 listed
      exact Action.worksOn_of_full fallback full (fun _ => rfl) (fun _ _ => rfl) rfl
        fun _ _ _ => trivial

/-! ## Sensor -/

/-- Both readings are finite. -/
def Sensor.Sound (self : Sensor) : Prop :=
  self.reading.isFinite = true ∧ ∀ x, self.last = some x → x.isFinite = true

theorem Sensor.lawful : Sensor.managed.fields.Lawful :=
  ⟨fun _ _ => rfl, ⟨fun _ _ => rfl, trivial⟩, by decide,
    ManagedFields.lawful_single fun _ _ => rfl⟩

theorem Sensor.keeps {self : Sensor} (sound : self.Sound) :
    Sensor.managed.fields.Keeps self := by
  refine ⟨⟨_, Codec.keepsAs_float sound.1⟩, Codec.keeps_option fun x present => ?_, trivial⟩
  exact ⟨.float x, Codec.keepsAs_float (sound.2 x present), by simp⟩

theorem Sensor.sample_sound {self : Sensor} (h : self.Sound) {values : List Value}
    (valid : ∀ value ∈ values, value.Valid) : (self.sample values).1.Sound := by
  constructor
  · have first : (values.headD .null).Valid := by
      cases values with
      | nil => trivial
      | cons value rest => exact valid value (List.mem_cons_self ..)
    show ((values.headD .null).asFloat?.getD .zero).isFinite = true
    cases read : (values.headD .null).asFloat? with
    | none => decide
    | some x => exact first.isFinite_asFloat read
  · rintro x ⟨⟩
    exact h.1

theorem Sensor.relocatable :
    (Sensor.type : ActorType W Sensor).Relocatable Sound (fun _ => True) := by
  refine ActorType.relocatable_of_worksOn rfl rfl lawful (fun sound _ => keeps sound) ?_
    (ActorType.handlesOn_unhandled rfl)
  intro action listed
  obtain rfl := List.mem_singleton.1 listed
  refine Action.worksOn_of_full sample ?_ (fun _ => rfl) (fun _ _ => rfl) rfl sample_sound
  rintro ⟨reading, last⟩ ⟨reading', last'⟩ ⟨first, second, -⟩
  cases first
  cases second
  rfl

end Actors

/-! ## The nine types -/

namespace Kind

/-- The types whose actors can be moved without anybody noticing. -/
def Movable : Kind → Prop
  | accumulator => True
  | doubler => True
  | gate => True
  | rearming => True
  | prioritized => True
  | resilient => True
  | sensor => True
  | evenPass => True
  | splitter => True
  | _ => False

/-- What all reachable states have in common. -/
def Sound : (kind : Kind) → kind.State → Prop
  | accumulator => Actors.Accumulator.Sound
  | sensor => Actors.Sensor.Sound
  | _ => fun _ => True

/-- The numbers that an actor calculates with have not outgrown their types. -/
def Fits : (kind : Kind) → kind.State → Prop
  | accumulator => Actors.Accumulator.Fits
  | doubler => Actors.Doubler.Fits
  | _ => fun _ => True

/-- The nine types keep the promises that moves ask for. -/
theorem relocatable {kind : Kind} (movable : kind.Movable) :
    kind.type.Relocatable kind.Sound kind.Fits := by
  cases kind with
  | accumulator => exact Actors.Accumulator.relocatable
  | doubler => exact Actors.Doubler.relocatable
  | gate => exact Actors.Gate.relocatable
  | rearming => exact Actors.Rearming.relocatable
  | prioritized => exact Actors.Prioritized.relocatable
  | resilient => exact Actors.Resilient.relocatable
  | sensor => exact Actors.Sensor.relocatable
  | evenPass => exact Actors.EvenPass.relocatable
  | splitter => exact Actors.Splitter.relocatable
  | faulty => cases movable
  | fetcher => cases movable
  | leaky => cases movable
  | program code => cases movable
  | handler code => cases movable

theorem sound_default (kind : Kind) : kind.Sound kind.type.managed.default := by
  cases kind with
  | accumulator => exact fun _ none => by cases none
  | sensor => exact ⟨by decide, fun _ none => by cases none⟩
  | doubler => trivial
  | gate => trivial
  | rearming => trivial
  | prioritized => trivial
  | resilient => trivial
  | evenPass => trivial
  | splitter => trivial
  | faulty => trivial
  | fetcher => trivial
  | leaky => trivial
  | program code => trivial
  | handler code => trivial

theorem init_movable {kind : Kind} (movable : kind.Movable) :
    kind.type.init = ActorType.unconfigured := by
  cases kind with
  | accumulator => rfl
  | doubler => rfl
  | gate => rfl
  | rearming => rfl
  | prioritized => rfl
  | resilient => rfl
  | sensor => rfl
  | evenPass => rfl
  | splitter => rfl
  | faulty => cases movable
  | fetcher => cases movable
  | leaky => cases movable
  | program code => cases movable
  | handler code => cases movable

/-- They start without a configuration, and leave the actor as it is. -/
theorem start_movable {kind : Kind} (movable : kind.Movable)
    {idle self : Instance DeviceWorld kind.State} {config : Value}
    (started : (kind.type.start idle config).value = (self, .ok ())) : self = idle := by
  rw [ActorType.start, init_movable movable] at started
  cases config with
  | null =>
      cases started
      rfl
  | bool b => cases started
  | int n => cases started
  | float x => cases started
  | str s => cases started
  | arr items => cases started
  | obj members => cases started

/-- An actor of the kind that was just created and started, with new queues on its ports. -/
structure Fresh (kind : Kind) (actor : ActorRef) (site : Site DeviceWorld kind.State) : Prop where
  started : ∃ registry world idle config,
    (kind.type.create actor registry world).value = .ok idle ∧
      (kind.type.start idle config).value = (site.self, .ok ())
  ports : site.store.Vacant actor

theorem Fresh.sound {kind : Kind} (movable : kind.Movable) {actor : ActorRef}
    {site : Site DeviceWorld kind.State} (h : kind.Fresh actor site) :
    site.Sound kind.Sound actor := by
  obtain ⟨registry, world, idle, config, created, started⟩ := h.started
  have same := start_movable movable started
  rw [ActorType.create, (relocatable movable).requires] at created
  cases created
  refine ⟨?_, ?_, h.ports.travels⟩
  · rw [same]
    exact sound_default kind
  · rw [same]
    rfl

/-- From every state that an actor of the nine types reaches, each move in a run succeeds, and the
answers are those of the run without the moves, as long as the actor's numbers do not outgrow their
types in that run. -/
theorem travel_unnoticed {kind : Kind} (movable : kind.Movable) {actor : ActorRef}
    {start : Site DeviceWorld kind.State} (fresh : kind.Fresh actor start)
    (history : List Operation) (steps : List (TravelStep DeviceWorld))
    (valid : ∀ operation ∈ history ++ TravelStep.operations steps, operation.Valid)
    (fits : (start.run kind.type history).1.Throughout kind.type kind.Fits
      (TravelStep.operations steps)) :
    ∃ last, (start.run kind.type history).1.travel kind.type steps =
      some (last,
        ((start.run kind.type history).1.run kind.type (TravelStep.operations steps)).2) := by
  have reached : (start.run kind.type history).1.Sound kind.Sound actor :=
    (fresh.sound movable).run (relocatable movable)
      fun operation member => valid operation (List.mem_append_left _ member)
  exact Site.travel_eq_run (relocatable movable) reached (.refl _ _) steps
    (fun operation member => valid operation (List.mem_append_right _ member)) fits

/-- A doubler that was just started. -/
def newDoubler : Site DeviceWorld doubler.State where
  self := ⟨{}, ⟨{ actor := ⟨"d"⟩ }, {}, {}⟩⟩
  store := Behaviour.relayPorts ⟨"d"⟩ []

theorem fresh_newDoubler : doubler.Fresh ⟨"d"⟩ newDoubler where
  started := ⟨{}, {}, _, .null, rfl, rfl⟩
  ports := by
    intro direction port queue found
    refine ⟨.unbounded, trivial, ?_⟩
    rw [Behaviour.queue_relayPorts found, ite_self]
    rfl

/-- A doubler that is moved between its first firing and its second. -/
theorem doubler_travel_unnoticed : ∃ last answers,
    (newDoubler.run doubler.type [.deliver "in" (.data (.int 5))]).1.travel doubler.type
      [.operate (.fire 2), .move ⟨{}, {}, {}⟩, .operate (.deliver "in" (.data (.int 6))),
        .operate (.fire 2), .operate (.drain "out")] = some (last, answers) ∧
    answers.getLast? = some (.drained (.ok [.data (.int 10), .data (.int 12)])) := by
  let steps : List (TravelStep DeviceWorld) :=
    [.operate (.fire 2), .move ⟨{}, {}, {}⟩, .operate (.deliver "in" (.data (.int 6))),
      .operate (.fire 2), .operate (.drain "out")]
  have valid : ∀ operation ∈ [.deliver "in" (.data (.int 5))] ++ TravelStep.operations steps,
      operation.Valid := by
    intro operation member
    simp only [steps, TravelStep.operations, List.mem_append, List.mem_cons, List.not_mem_nil,
      or_false] at member
    rcases member with rfl | rfl | rfl | rfl | rfl
    · exact ⟨by decide, by decide⟩
    · trivial
    · exact ⟨by decide, by decide⟩
    · trivial
    · trivial
  have small : ∀ n : Nat, n ≤ 2 → n < 2 ^ 64 := by omega
  have movable : doubler.Movable := trivial
  obtain ⟨last, travelled⟩ := travel_unnoticed movable fresh_newDoubler _ steps valid
    ⟨small 0 (by decide), small 1 (by decide), small 1 (by decide), small 2 (by decide),
      small 2 (by decide)⟩
  exact ⟨last, _, travelled, rfl⟩

end Kind

end Dataflow
