import Dataflow.Proofs.Actor.Relay
import Dataflow.Proofs.Actor.Relocation
import Dataflow.Proofs.Firing.Measure

/-!
# Recovery from exception tokens

A resilient actor takes the tokens of `in` one by one.  A value goes through its body and an
exception token through its handler, which keeps the reason; either way one value is written, so the
stream goes on in its order.  Neither a full queue nor a move comes between a token and the value
that is written for it.

* `Resilient.Recovers` — the course of such an actor.
* `Resilient.streams` — each selection is a step of it, and none fails.
* `Resilient.travel_recovers` — what a run with moves comes to, at every point.
-/

namespace Dataflow.Actors.Resilient

open PortCount Relay

variable {W : Type} {self : Instance W Resilient} {store : PortStore}

/-! ## The course -/

/-- The value that is written for a token. -/
def passed : Token → Value
  | .data value => value
  | .exception reason => recovery reason

/-- The fields of the actor when it has taken a token. -/
def noting (model : Resilient) : Token → Resilient
  | .data _ => model
  | .exception reason => { recovered := model.recovered ++ [reason] }

theorem recovered_noting (model : Resilient) (token : Token) :
    (model.noting token).recovered = model.recovered ++ [token].filterMap Token.reason? := by
  cases token with
  | data value => exact (List.append_nil _).symm
  | exception reason => rfl

/-- Each token that is read takes one firing and is written as one value; the reasons of exception
tokens are kept. -/
def Recovers : Course Resilient := fun before read written firings after =>
  written = read.map (fun token => .data (passed token)) ∧
    after.recovered = before.recovered ++ read.filterMap Token.reason? ∧
    firings.length = read.length

theorem Recovers.refl (model : Resilient) : Recovers model [] [] [] model :=
  ⟨rfl, (List.append_nil _).symm, rfl⟩

theorem Recovers.take (model : Resilient) (token : Token) (firing : Firing) :
    Recovers model [token] [.data (passed token)] [firing] (model.noting token) :=
  ⟨rfl, recovered_noting model token, rfl⟩

theorem Recovers.trans {first second third : Resilient} {read read' written written' : List Token}
    {firings firings' : List Firing} (h : Recovers first read written firings second)
    (h' : Recovers second read' written' firings' third) :
    Recovers first (read ++ read') (written ++ written') (firings ++ firings') third := by
  obtain ⟨rfl, reasons, count⟩ := h
  obtain ⟨rfl, reasons', count'⟩ := h'
  refine ⟨List.map_append.symm, ?_, ?_⟩
  · rw [reasons', reasons, List.append_assoc, List.filterMap_append]
  · rw [List.length_append, List.length_append, count, count']

/-! ## A selection -/

/-- The one action. -/
def passing : Action (Instance W Resilient) where
  name := "pass"
  inputs := [.one "in"]
  outputs := [.one "out"]
  body := onModel fun self values => (self, .ok (.produced values))

/-- Whatever token comes next, it is taken if there is room. -/
theorem fires (tokens : store.Holds self.actor [.one "in"])
    (room : store.HasRoom self.actor [.one "out"]) {token : Token} {rest : List Token}
    (queued : store.tokensOn self.actor .input "in" = token :: rest) :
    passing.Fires (type.behaviour self.actor) store self [passed token]
      { self with model := self.model.noting token } where
  guard := rfl
  tokens := tokens
  room := room
  answer := by
    have read : store.reads self.actor [.one "in"] = [token] := PortStore.reads_waiting queued
    show ∃ result, Action.response _ passing self (store.reads self.actor [.one "in"]) = _ ∧ _
    rw [read]
    cases token with
    | data value => exact ⟨.produced [value], rfl, rfl⟩
    | exception reason => exact ⟨.one (recovery reason), rfl, rfl⟩
  count := rfl

theorem streams : (type : ActorType W Resilient).Streams Recovers fun _ _ => False where
  refl := .refl
  trans h h' := h.trans h'
  select {self store} wired := by
    by_cases enabled : passing.Enabled self.actor self store
    · obtain ⟨token, rest, queued⟩ := PortStore.Holds.exists_waiting enabled.tokens
      have taken := fires enabled.tokens enabled.room queued
      have selected : ((type.behaviour self.actor).select self store).value = _ :=
        Behaviour.scan_of_fired [] (Action.tryFire_of_fires 0 wired.clean taken)
      rw [selected]
      refine .of_fires taken ?_
      rw [queued]
      exact .take self.model token _
    · have selected : ((type.behaviour self.actor).select self store).value =
          ⟨self, store, .ok none⟩ := by
        refine Behaviour.scan_of_disabled wired.clean 0 ?_ ?_
        · intro action listed
          obtain rfl := List.mem_singleton.1 listed
          exact wired.known (by simp [PortCount.one]) (by simp [PortCount.one])
        · intro action listed
          obtain rfl := List.mem_singleton.1 listed
          exact enabled
      rw [selected]
      exact .rest

/-! ## The end of a call -/

/-- The actor does not decline. -/
theorem response_ne_declined {actor : ActorRef} {tokens : List Token} {after : Instance W Resilient}
    {result : ActionResult}
    (answer : passing.response (type.behaviour actor) self tokens = some (after, .ok result)) :
    result ≠ .fired false := by
  rw [Action.response] at answer
  split at answer
  · cases answer
    simp [ActionResult.one]
  · split at answer
    · cases answer
      simp
    · cases answer

/-- Each firing takes a token. -/
theorem lowers (actor : ActorRef) : ((type : ActorType W Resilient).behaviour actor).Lowers
    (fun _ => True) fun _ store => (store.tokensOn actor .input "in").length where
  same kept := congrArg List.length (kept "in")
  declined listed _ _ answer := by
    obtain rfl := List.mem_singleton.1 listed
    exact absurd rfl (response_ne_declined answer)
  fired listed _ _ _ _ lost := by
    obtain rfl := List.mem_singleton.1 listed
    have less := lost "in"
    exact ⟨trivial, less⟩

/-! ## Runs -/

/-- The reasons are all that there is. -/
theorem eq_of_agree {here there : Resilient} (agree : managed.fields.Agree here there) :
    here = there :=
  congrArg Resilient.mk agree.1

/-- The state of affairs when some tokens have been taken. -/
structure Recovered (taken : List Token) (relay : Relay W Resilient) : Prop where
  /-- What was accepted are these tokens, and what is queued on `in`. -/
  accepted : relay.accepted = taken ++ relay.waiting
  /-- A value was written for each of them. -/
  emitted : relay.drained ++ relay.written = taken.map fun token => .data (passed token)
  /-- The actor keeps the reasons of the exception tokens among them. -/
  reasons : relay.site.self.model.recovered = taken.filterMap Token.reason?
  /-- It fired once for each of them. -/
  fired : relay.firings.length = taken.length

variable {relay : Relay W Resilient} {taken : List Token}

/-- The stream goes on in its order. -/
theorem Recovered.stream (recovered : Recovered taken relay) :
    relay.drained ++ relay.written ++ relay.waiting.map (fun token => .data (passed token)) =
      relay.accepted.map fun token => .data (passed token) := by
  rw [recovered.emitted, recovered.accepted, List.map_append]

/-- A call that may go on until no token is left succeeds. -/
theorem exists_report (wired : store.Wired self.actor) {limit : Nat}
    (enough : (store.tokensOn self.actor .input "in").length < limit) :
    ∃ after next report,
      (type.fire limit self store).value = some ⟨after, next, .ok report⟩ := by
  obtain ⟨after, next, result, returns, -⟩ := (lowers self.actor).endsWithin self trivial store
  have ran := returns limit enough
  cases result with
  | ok report => exact ⟨after, next, report, ran⟩
  | error e => exact ((streams.fire wired ran).2 e rfl).elim

/-- Whatever is delivered to a new actor, and however it is worked and moved: the moves succeed;
what was drained, what is queued on `out` and what is still to be written for `in` is what was
accepted, with a note in the place of each exception token; the reasons of those that were taken
are kept; and no call has failed, nor would the next one fail. -/
theorem travel_recovers (fresh : relay.Fresh (type : ActorType W Resilient))
    (fit : relay.site.store.Travels relay.site.self.actor) (legs : List (Leg W))
    (valid : ∀ leg ∈ legs, leg.Valid) :
    ∃ last taken, relay.travel type legs = some last ∧ Recovered taken last ∧
      last.drained ++ last.written ++ last.waiting.map (fun token => .data (passed token)) =
        last.accepted.map (fun token => .data (passed token)) ∧
      (∀ e, some (.error e) ∉ last.answers) ∧
      ∀ limit, last.waiting.length < limit → ∃ after next report,
        (type.fire limit last.site.self last.site.store).value =
          some ⟨after, next, .ok report⟩ := by
  obtain ⟨last, travelled, flow, -⟩ :=
    (fresh.flow streams).travel streams relocatable eq_of_agree ⟨trivial, rfl, fit⟩ legs valid
  obtain ⟨read, written, accepted, drained, emitted, reasons, count⟩ := flow.follows
  have recovered : Recovered read last := ⟨accepted, drained.trans emitted, reasons, count⟩
  have wired := flow.wired
  rw [← flow.identity] at wired
  exact ⟨last, read, travelled, recovered, recovered.stream, flow.answers,
    fun limit enough => exists_report wired enough⟩

/-- Room for three tokens on the one side and for one token on the other. -/
def exposed : Relay Unit Resilient :=
  between (Behaviour.bareInstance ⟨"f"⟩ {}) (.bounded 3) (.bounded 1)

/-- The actor is restored and its ports are moved while the note for the exception token stands in
the way of the last value. -/
def passage : List (Leg Unit) :=
  [.work (.deliver (.data (.int 1))), .work (.deliver (.exception "lost")),
    .work (.deliver (.data (.int 2))), .work (.fire 9), .work .drain, .work (.fire 9),
    .restore ⟨{}, {}, ()⟩, .rehouse {}, .work (.fire 9), .work .drain, .work (.fire 9)]

theorem exposed_recovers : ∃ last taken, exposed.travel type passage = some last ∧
    Recovered taken last ∧
    last.drained = [.data (.int 1), .data (recovery "lost")] ∧ last.written = [.data (.int 2)] ∧
    last.site.self.model.recovered = ["lost"] ∧
    ∀ limit, last.waiting.length < limit → ∃ after next report,
      (type.fire limit last.site.self last.site.store).value =
        some ⟨after, next, .ok report⟩ := by
  have fresh : exposed.Fresh type := fresh_between rfl (.bounded 3) (.bounded 1)
  have fit : exposed.site.store.Travels exposed.site.self.actor :=
    travels_between ⟨by simp [Capacity.Portable], by simp [Capacity.Portable]⟩
  have valid : ∀ leg ∈ passage, leg.Valid := by
    intro leg member
    simp only [passage, List.mem_cons, List.not_mem_nil, or_false] at member
    rcases member with rfl | rfl | rfl | rfl | rfl | rfl | rfl | rfl | rfl | rfl | rfl <;> trivial
  obtain ⟨last, taken, travelled, recovered, -, -, succeeds⟩ :=
    travel_recovers fresh fit passage valid
  obtain ⟨reached, ran, drained, written, reasons⟩ : ∃ reached,
      exposed.travel type passage = some reached ∧
      reached.drained = [.data (.int 1), .data (recovery "lost")] ∧
      reached.written = [.data (.int 2)] ∧ reached.site.self.model.recovered = ["lost"] :=
    ⟨_, rfl, rfl, rfl, rfl⟩
  obtain rfl := Option.some.inj (travelled.symm.trans ran)
  exact ⟨last, taken, travelled, recovered, drained, written, reasons, succeeds⟩

end Dataflow.Actors.Resilient
