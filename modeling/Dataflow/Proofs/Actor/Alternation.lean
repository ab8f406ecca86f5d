import Dataflow.Actors.Flow
import Dataflow.Proofs.Actor.Relay

/-!
# An actor that rearms itself

A rearming actor has three actions: `prime`, which needs the actor to be armed, `consume`, which
needs it not to be, and `fallback`, which reads and writes the same ports as `consume` and needs
nothing else.  Every scan starts at the top, so a firing of `consume` is followed by one of `prime`,
however long that has to wait for room; and `fallback` never gets its turn, since it is enabled only
if an action above it is.

* `Rearming.withFallback` — the type with another body in the place of that of `fallback`.
* `Rearming.Alternates` — the course of such an actor: each value that is read is written, and the
  mark of `prime` after it.
* `Rearming.exists_selection` — each selection is a step of that course, and no body of `fallback`
  makes a difference to it.
* `Rearming.run_alternates` — so it is for runs.
-/

namespace Dataflow.Actors.Rearming

open PortCount Relay

variable {W : Type} {self : Instance W Rearming} {store : PortStore}

/-! ## The actions -/

/-- Writes the mark and disarms. -/
def priming : Action (Instance W Rearming) where
  name := "prime"
  guard := some fun self => self.model.armed
  outputs := [.one "out"]
  body := onModel prime

/-- Passes on a value and arms. -/
def consuming : Action (Instance W Rearming) where
  name := "consume"
  guard := some fun self => !self.model.armed
  inputs := [.one "in"]
  outputs := [.one "out"]
  body := onModel consume

/-- What `fallback` may do with a value. -/
abbrev Body (W : Type) :=
  Instance W Rearming → List Value → Logged (Instance W Rearming × Except Failure ActionResult)

/-- Does as it likes with a value. -/
def fallingBack (body : Body W) : Action (Instance W Rearming) where
  name := "fallback"
  inputs := [.one "in"]
  outputs := [.one "out"]
  body

/-- The type with another body of `fallback`. -/
def withFallback (body : Body W) : ActorType W Rearming :=
  { type with actions := [priming, consuming, fallingBack body] }

theorem withFallback_self : withFallback (onModel fallback) = (type : ActorType W Rearming) := rfl

/-! ## The course -/

/-- What is written for a value. -/
def marked (value : Value) : List Token := [.data value, .data (.str "prime")]

/-- The mark that an armed actor still has to write. -/
def due (model : Rearming) : List Token := if model.armed then [.data (.str "prime")] else []

/-- The firing that an armed actor still has to make. -/
def dueFiring (model : Rearming) : List String := if model.armed then ["prime"] else []

/-- Values are read, each is written with the mark after it, and `consume` and `prime` fire in turn;
the last mark and the last firing of `prime` may be outstanding before and after. -/
def Alternates : Course Rearming := fun before read written firings after =>
  ∃ values : List Value, read = values.map Token.data ∧
    written ++ due after = due before ++ values.flatMap marked ∧
    firings.map Firing.action ++ dueFiring after =
      dueFiring before ++ values.flatMap fun _ => ["consume", "prime"]

/-- The failure of a call that meets an exception token. -/
def Refuses (actor : ActorRef) (e : FiringError) : Prop :=
  ∃ reason, e = .unhandledException actor "consume" reason (unhandled reason)

theorem Alternates.refl (model : Rearming) : Alternates model [] [] [] model :=
  ⟨[], rfl, by simp, by simp⟩

theorem Alternates.prime {model : Rearming} (armed : model.armed = true) {firing : Firing}
    (name : firing.action = "prime") :
    Alternates model [] [.data (.str "prime")] [firing] { armed := false } :=
  ⟨[], rfl, by simp [due, armed], by simp [dueFiring, armed, name]⟩

theorem Alternates.consume {model : Rearming} (idle : model.armed = false) {firing : Firing}
    (name : firing.action = "consume") (value : Value) :
    Alternates model [.data value] [.data value] [firing] { armed := true } :=
  ⟨[value], rfl, by simp [due, idle, marked], by simp [dueFiring, idle, name]⟩

theorem Alternates.trans {first second third : Rearming} {read read' written written' : List Token}
    {firings firings' : List Firing} (h : Alternates first read written firings second)
    (h' : Alternates second read' written' firings' third) :
    Alternates first (read ++ read') (written ++ written') (firings ++ firings') third := by
  obtain ⟨values, rfl, tokens, names⟩ := h
  obtain ⟨values', rfl, tokens', names'⟩ := h'
  refine ⟨values ++ values', List.map_append.symm, ?_, ?_⟩
  · rw [List.append_assoc, tokens', ← List.append_assoc, tokens, List.append_assoc,
      List.flatMap_append]
  · rw [List.map_append, List.append_assoc, names', ← List.append_assoc, names, List.append_assoc,
      List.flatMap_append]

/-! ## A selection -/

/-- What comes of priming. -/
def primed (self : Instance W Rearming) (store : PortStore) :
    Outcome (Instance W Rearming) PortStore (Option Firing) where
  state := { self with model := { armed := false } }
  ports := (priming : Action (Instance W Rearming)).effect self.actor [.str "prime"] store
  result := .ok (some ((priming : Action (Instance W Rearming)).firing self.actor 0 store))

/-- What comes of consuming a value. -/
def consumed (value : Value) (self : Instance W Rearming) (store : PortStore) :
    Outcome (Instance W Rearming) PortStore (Option Firing) where
  state := { self with model := { armed := true } }
  ports := (consuming : Action (Instance W Rearming)).effect self.actor [value] store
  result := .ok (some ((consuming : Action (Instance W Rearming)).firing self.actor 1 store))

section Selection

variable (body : Body W)

/-- An armed actor primes as soon as there is room. -/
theorem primes (armed : self.model.armed = true) (room : store.HasRoom self.actor [.one "out"]) :
    priming.Fires ((withFallback body).behaviour self.actor) store self [.str "prime"]
      { self with model := { armed := false } } where
  guard := armed
  tokens input declared := by cases declared
  room := room
  answer := ⟨_, rfl, rfl⟩
  count := rfl

/-- An actor that is not armed consumes a value as soon as there is one, and room. -/
theorem consumes (idle : self.model.armed = false)
    (tokens : store.Holds self.actor [.one "in"]) (room : store.HasRoom self.actor [.one "out"])
    {value : Value} {rest : List Token}
    (queued : store.tokensOn self.actor .input "in" = .data value :: rest) :
    consuming.Fires ((withFallback body).behaviour self.actor) store self [value]
      { self with model := { armed := true } } where
  guard := by simp [Action.open?, consuming, idle]
  tokens := tokens
  room := room
  answer := by
    refine ⟨.one value, ?_, rfl⟩
    show Action.response _ consuming self (store.reads self.actor [.one "in"]) = _
    rw [PortStore.reads_waiting queued]
    rfl
  count := rfl

/-- An exception token is not handled. -/
theorem refuses {reason : String} {rest : List Token}
    (queued : store.tokensOn self.actor .input "in" = .exception reason :: rest) :
    consuming.response ((withFallback body).behaviour self.actor) self
      (store.reads self.actor [.one "in"]) = some (self, .error (unhandled reason)) := by
  rw [PortStore.reads_waiting queued]
  rfl

theorem known (wired : store.Wired self.actor) :
    ∀ action ∈ [priming, consuming, fallingBack body], action.Known self.actor store := by
  intro action listed
  simp only [List.mem_cons, List.not_mem_nil, or_false] at listed
  rcases listed with rfl | rfl | rfl <;>
    exact wired.known (by simp [priming, consuming, fallingBack, PortCount.one])
      (by simp [priming, consuming, fallingBack, PortCount.one])

/-- An actor that is not armed does not prime. -/
theorem skips_prime (wired : store.Wired self.actor) (idle : self.model.armed = false) :
    ∃ reason, (priming.tryFire ((withFallback body).behaviour self.actor) 0 self store).value =
      ⟨self, store, .ok (.skipped reason)⟩ := by
  refine Action.tryFire_of_disabled 0 wired.clean (known body wired _ (List.mem_cons_self ..)) ?_
  intro enabled
  have guard : self.model.armed = true := enabled.guard
  rw [idle] at guard
  cases guard

theorem select_prime (clean : store.Unpeeked self.actor) (armed : self.model.armed = true)
    (room : store.HasRoom self.actor [.one "out"]) :
    (((withFallback body).behaviour self.actor).select self store).value = primed self store :=
  Behaviour.scan_of_fired _ (Action.tryFire_of_fires 0 clean (primes body armed room))

theorem select_consume (wired : store.Wired self.actor) (idle : self.model.armed = false)
    (tokens : store.Holds self.actor [.one "in"]) (room : store.HasRoom self.actor [.one "out"])
    {value : Value} {rest : List Token}
    (queued : store.tokensOn self.actor .input "in" = .data value :: rest) :
    (((withFallback body).behaviour self.actor).select self store).value =
      consumed value self store := by
  obtain ⟨reason, skipped⟩ := skips_prime body wired idle
  refine (Behaviour.scan_of_skipped _ skipped).trans ?_
  exact Behaviour.scan_of_fired _
    (Action.tryFire_of_fires 1 wired.clean (consumes body idle tokens room queued))

theorem select_refuse (wired : store.Wired self.actor) (idle : self.model.armed = false)
    (tokens : store.Holds self.actor [.one "in"]) (room : store.HasRoom self.actor [.one "out"])
    {reason : String} {rest : List Token}
    (queued : store.tokensOn self.actor .input "in" = .exception reason :: rest) :
    (((withFallback body).behaviour self.actor).select self store).value =
      ⟨self, store,
        .error (.unhandledException self.actor "consume" reason (unhandled reason))⟩ := by
  obtain ⟨skip, skipped⟩ := skips_prime body wired idle
  have enabled : consuming.Enabled self.actor self store :=
    ⟨by simp [Action.open?, consuming, idle], tokens, room⟩
  refine (Behaviour.scan_of_skipped _ skipped).trans ?_
  refine (Behaviour.scan_of_failed _
    (Action.tryFire_of_failure 1 wired.clean enabled (refuses body queued))).trans ?_
  have failure : store.reads self.actor [.one "in"] = [.exception reason] :=
    PortStore.reads_waiting queued
  show (⟨self, store, .error (Action.failure _ consuming (store.reads self.actor [.one "in"]) _)⟩ :
    Outcome (Instance W Rearming) PortStore (Option Firing)) = _
  rw [failure]
  rfl

end Selection

/-- Priming is a step of the course. -/
theorem steps_prime (armed : self.model.armed = true)
    (room : store.HasRoom self.actor [.one "out"]) :
    ActorType.Steps Alternates Refuses self store (primed self store) :=
  .of_fires (primes (onModel fallback) armed room) (.prime armed rfl)

/-- So is consuming. -/
theorem steps_consume (idle : self.model.armed = false)
    (tokens : store.Holds self.actor [.one "in"]) (room : store.HasRoom self.actor [.one "out"])
    {value : Value} {rest : List Token}
    (queued : store.tokensOn self.actor .input "in" = .data value :: rest) :
    ActorType.Steps Alternates Refuses self store (consumed value self store) := by
  refine .of_fires (consumes (onModel fallback) idle tokens room queued) ?_
  rw [queued]
  exact .consume idle rfl value

/-- An action that reads or writes what is not there is not enabled, and `prime` and `consume` are
never enabled both. -/
theorem disabled (body : Body W)
    (primes : self.model.armed = true → ¬store.HasRoom self.actor [.one "out"])
    (consumes : self.model.armed = false → store.Holds self.actor [.one "in"] →
      ¬store.HasRoom self.actor [.one "out"]) :
    ∀ action ∈ [priming, consuming, fallingBack body],
      ¬action.Enabled self.actor self store := by
  intro action listed enabled
  have room : store.HasRoom self.actor [.one "out"] := by
    simp only [List.mem_cons, List.not_mem_nil, or_false] at listed
    rcases listed with rfl | rfl | rfl <;> exact enabled.room
  cases armed : self.model.armed with
  | true => exact primes armed room
  | false =>
      simp only [List.mem_cons, List.not_mem_nil, or_false] at listed
      rcases listed with rfl | rfl | rfl
      · have guard : self.model.armed = true := enabled.guard
        rw [armed] at guard
        cases guard
      · exact consumes armed enabled.tokens room
      · exact consumes armed enabled.tokens room

/-- What comes of a selection, whatever the body of `fallback` would do: it is a step of the course,
or nothing fires. -/
theorem exists_selection (wired : store.Wired self.actor) :
    ∃ outcome, ActorType.Steps Alternates Refuses self store outcome ∧
      ∀ body, (((withFallback body).behaviour self.actor).select self store).value = outcome := by
  have clean := wired.clean
  by_cases room : store.HasRoom self.actor [.one "out"]
  · cases armed : self.model.armed with
    | true => exact ⟨_, steps_prime armed room, fun body => select_prime body clean armed room⟩
    | false =>
        by_cases tokens : store.Holds self.actor [.one "in"]
        · obtain ⟨token, rest, queued⟩ := tokens.exists_waiting
          cases token with
          | data value =>
              exact ⟨_, steps_consume armed tokens room queued,
                fun body => select_consume body wired armed tokens room queued⟩
          | exception reason =>
              exact ⟨_, .failed ⟨reason, rfl⟩,
                fun body => select_refuse body wired armed tokens room queued⟩
        · refine ⟨_, .rest, fun body => Behaviour.scan_of_disabled clean 0 (known body wired) ?_⟩
          refine disabled body (fun primes => ?_) fun _ there => absurd there tokens
          rw [armed] at primes
          cases primes
  · refine ⟨_, .rest, fun body => Behaviour.scan_of_disabled clean 0 (known body wired) ?_⟩
    exact disabled body (fun _ => room) fun _ _ => room

theorem streams (body : Body W) : (withFallback body).Streams Alternates Refuses where
  refl := .refl
  trans h h' := h.trans h'
  select wired := by
    obtain ⟨outcome, steps, selected⟩ := exists_selection wired
    rw [selected body]
    exact steps

theorem selectsAs (body body' : Body W) :
    (withFallback body).SelectsAs (withFallback body') := by
  intro self store wired
  obtain ⟨outcome, -, selected⟩ := exists_selection wired
  rw [selected body, selected body']

/-! ## Runs -/

/-- The state of affairs when some values have been consumed. -/
structure Consumed (values : List Value) (relay : Relay W Rearming) : Prop where
  /-- What was accepted are these values, and what is queued on `in`. -/
  accepted : relay.accepted = values.map Token.data ++ relay.waiting
  /-- Each of them was written, and the mark after it, but for one mark if the actor is armed. -/
  emitted : relay.drained ++ relay.written ++ due relay.site.self.model = values.flatMap marked
  /-- `consume` fired for each of them, and `prime` after it, but for one time if it is armed. -/
  fired : relay.firings.map Firing.action ++ dueFiring relay.site.self.model =
    values.flatMap fun _ => ["consume", "prime"]

variable {relay : Relay W Rearming} {values : List Value}

theorem Consumed.not_fallback (consumed : Consumed values relay) :
    "fallback" ∉ relay.firings.map Firing.action := by
  intro fired
  have listed := List.mem_append_left (dueFiring relay.site.self.model) fired
  rw [consumed.fired] at listed
  simp at listed

/-- Armed means that the last firing was one of `consume`. -/
theorem Consumed.armed_iff (consumed : Consumed values relay) :
    relay.site.self.model.armed = true ↔
      (relay.firings.map Firing.action).getLast? = some "consume" := by
  have fired := consumed.fired
  generalize relay.firings.map Firing.action = names at fired
  rcases List.eq_nil_or_concat values with rfl | ⟨before, value, rfl⟩
  · obtain ⟨rfl, none⟩ := List.append_eq_nil_iff.1 fired
    simpa [dueFiring] using none
  · rw [List.concat_eq_append, List.flatMap_append, List.flatMap_singleton] at fired
    cases armed : relay.site.self.model.armed with
    | false =>
        rw [dueFiring, if_neg (by simp [armed]), List.append_nil] at fired
        simp [fired]
    | true =>
        rw [dueFiring, if_pos armed, show ["consume", "prime"] = ["consume"] ++ ["prime"] from rfl,
          ← List.append_assoc, List.append_cancel_right_eq] at fired
        simp [fired]

/-- However a new actor is worked: `consume` and `prime` fire in turn, and `fallback` does not, nor
would it make a difference if its body were another one; the actor is armed if `consume` was the
last to fire; what was written are the consumed values, each with the mark of `prime` after it,
the last of which may be outstanding; and calls fail only in `consume`, on an exception token. -/
theorem run_alternates (fresh : relay.Fresh (type : ActorType W Rearming)) (steps : List Step) :
    ∃ values, Consumed values (relay.run type steps) ∧
      "fallback" ∉ (relay.run type steps).firings.map Firing.action ∧
      ((relay.run type steps).site.self.model.armed = true ↔
        ((relay.run type steps).firings.map Firing.action).getLast? = some "consume") ∧
      (∀ e, some (.error e) ∈ (relay.run type steps).answers →
        Refuses relay.site.self.actor e) ∧
      ∀ body, relay.run (withFallback body) steps = relay.run type steps := by
  have own := streams (onModel fallback : Body W)
  rw [← withFallback_self] at fresh ⊢
  have flow := fresh.flow own
  obtain ⟨-, -, ⟨read, written, accepted, drained, values, rfl, tokens, names⟩, failures⟩ :=
    flow.run own steps
  subst drained
  have consumed : Consumed values (relay.run (withFallback (onModel fallback)) steps) :=
    ⟨accepted, tokens, names⟩
  exact ⟨values, consumed, consumed.not_fallback, consumed.armed_iff, failures,
    fun body => flow.run_congr own (selectsAs body _) steps⟩

/-- Room for two tokens on the one side and for one token on the other. -/
def stalled : Relay Unit Rearming :=
  between (Behaviour.bareInstance ⟨"r"⟩ {}) (.bounded 2) (.bounded 1)

/-- The third delivery finds no room, neither does `prime` at first, and the last call meets an
exception token. -/
def stops : List Step :=
  [.deliver (.data (.int 1)), .deliver (.exception "late"), .deliver (.data .null), .fire 9,
    .fire 9, .drain, .fire 9, .drain, .fire 9]

theorem stalled_alternates : ∃ values, Consumed values (stalled.run type stops) ∧
    (stalled.run type stops).firings.map Firing.action = ["consume", "prime"] ∧
    (stalled.run type stops).drained = [.data (.int 1), .data (.str "prime")] ∧
    (stalled.run type stops).waiting = [.exception "late"] ∧
    (∃ e, some (.error e) ∈ (stalled.run type stops).answers ∧ Refuses ⟨"r"⟩ e) ∧
    ∀ body, stalled.run (withFallback body) stops = stalled.run type stops := by
  have fresh : stalled.Fresh type := fresh_between rfl (.bounded 2) (.bounded 1)
  obtain ⟨values, consumed, -, -, failures, same⟩ := run_alternates fresh stops
  have failed : some (.error (.unhandledException ⟨"r"⟩ "consume" "late" (unhandled "late"))) ∈
      (stalled.run type stops).answers :=
    List.mem_of_getLast? rfl
  exact ⟨values, consumed, rfl, rfl, rfl, ⟨_, failed, failures _ failed⟩, same⟩

end Dataflow.Actors.Rearming
