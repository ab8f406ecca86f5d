import Dataflow.Actors.Flow
import Dataflow.Proofs.Actor.Fetcher
import Dataflow.Proofs.Firing.Measure

/-!
# Calls of actors with actions that read nothing

A fetcher and a rearming actor have actions without in-ports, whose out-ports may be unbounded.
Their calls end all the same, from any state and on any ports: what their own fields, a script and
one in-port have in store allows for so many firings, and each firing takes some of it.

* `Behaviour.Strict` — an actor that handles no exception token.
* `Behaviour.Strict.lowers` — if each body takes some of what the state has in store, or of the
  tokens of a port, then firings do.
* `Fetcher.body_takes`, `Rearming.body_takes` — the bodies of the two actors do.
* `actors_endWithin` — the bounds on the firings of a call.
-/

namespace Dataflow

open PortCount

namespace Behaviour

variable {S : Type} {behaviour : Behaviour S}

/-- The actor handles no exception token. -/
def Strict (behaviour : Behaviour S) : Prop :=
  ∀ state name reason after result,
    (behaviour.onException state name reason).value ≠ (after, .ok result)

/-- If no exception token is handled, an answer that is no failure comes from the body. -/
theorem Strict.body (strict : behaviour.Strict) {action : Action S} {state after : S}
    {tokens : List Token} {result : ActionResult}
    (answer : action.response behaviour state tokens = some (after, .ok result)) :
    ∃ values, (action.body state values).value = (after, .ok result) := by
  rw [Action.response] at answer
  split at answer
  · exact absurd (Option.some.inj answer) (strict _ _ _ _ _)
  · split at answer
    · exact ⟨_, Option.some.inj answer⟩
    · cases answer

/-- Bodies that take some of what the state has in store, or of the tokens of an in-port, each of
which is worth so much, bring the calls of a strict actor to an end. -/
theorem Strict.lowers (strict : behaviour.Strict) {inv : S → Prop} {stock : S → Nat}
    {port : String} {worth : Nat}
    (takes : ∀ action ∈ behaviour.actions, ∀ state after values result, inv state →
      action.open? state = true → (action.body state values).value = (after, .ok result) →
      result ≠ .fired false ∧ inv after ∧
        stock after + 1 ≤ stock state + worth * demand port action.inputs) :
    behaviour.Lowers inv fun state store =>
      stock state + worth * (store.tokensOn behaviour.actor .input port).length where
  same kept := by rw [kept]
  declined listed holds guard answer := by
    obtain ⟨values, ran⟩ := strict.body answer
    exact absurd rfl (takes _ listed _ _ _ _ holds guard ran).1
  fired {action state store after next _ _ _} listed holds guard answer _ lost := by
    obtain ⟨values, ran⟩ := strict.body answer
    obtain ⟨-, kept, less⟩ := takes _ listed _ _ _ _ holds guard ran
    have gone := Nat.mul_le_mul_left worth (lost port)
    rw [Nat.mul_add] at gone
    exact ⟨kept, by omega⟩

end Behaviour

namespace Actors

/-! ## Fetcher -/

namespace Fetcher

open Context

variable {place : Nat}

/-- A value that is left to be read allows for a firing that reads it and one that emits it. -/
def stock (place : Nat) (self : Instance DeviceWorld Fetcher) : Nat :=
  2 * (self.context.unread place).length + (if self.model.response.isSome then 1 else 0)

theorem strict (actor : ActorRef) :
    ((type : ActorType DeviceWorld Fetcher).behaviour actor).Strict :=
  fun _ _ _ _ _ => nofun

/-- A body takes the buffered value, or moves one from the script to the buffer, or sends the token
that it is given. -/
theorem body_takes {action : Action (Instance DeviceWorld Fetcher)}
    (listed : action ∈ (type : ActorType DeviceWorld Fetcher).actions)
    {self after : Instance DeviceWorld Fetcher} {values : List Value} {result : ActionResult}
    (onScript : self.context.OnScript place) (guard : action.open? self = true)
    (ran : (action.body self values).value = (after, .ok result)) :
    result ≠ .fired false ∧ after.context.OnScript place ∧
      stock place after + 1 ≤ stock place self + 1 * demand "url" action.inputs := by
  simp only [type, List.mem_cons, List.not_mem_nil, or_false] at listed
  rcases listed with rfl | rfl | rfl
  · have full : self.model.response.isSome = true := guard
    cases ran
    refine ⟨by simp, onScript, ?_⟩
    simp [stock, full]
  · have ready : readable self = true := guard
    rw [readable, Bool.and_eq_true] at ready
    have empty := Option.isNone_iff_eq_none.1 ready.1
    cases opened : self.model.handle with
    | none => simp [opened] at ready
    | some handle =>
        rw [opened, Option.any_some] at ready
        obtain ⟨value, rest, context, unread, read, leaves⟩ := read_onScript onScript ready.2
        simp only [receive, opened, read] at ran
        cases ran
        refine ⟨by simp, leaves.toOnScript, ?_⟩
        simp [stock, leaves.unread, unread, empty]
        omega
  · have ready : writable self = true := guard
    rw [writable] at ready
    cases opened : self.model.handle with
    | none => simp [opened] at ready
    | some handle =>
        rw [opened, Option.any_some] at ready
        obtain ⟨context, written, leaves⟩ := write_onScript onScript ready (values.headD .null)
        simp only [request, opened, written] at ran
        cases ran
        refine ⟨by simp, leaves.toOnScript, ?_⟩
        simp [stock, leaves.unread, PortCount.one, demand]

theorem lowers (place : Nat) (actor : ActorRef) :
    ((type : ActorType DeviceWorld Fetcher).behaviour actor).Lowers
      (fun self => self.context.OnScript place) fun self store =>
        stock place self + 1 * (store.tokensOn actor .input "url").length :=
  (strict actor).lowers fun _ listed _ _ _ _ onScript guard ran =>
    body_takes listed onScript guard ran

end Fetcher

/-! ## Rearming -/

namespace Rearming

variable {W : Type}

/-- An armed actor fires once more without reading anything. -/
def stock (self : Instance W Rearming) : Nat := if self.model.armed then 1 else 0

theorem strict (actor : ActorRef) : ((type : ActorType W Rearming).behaviour actor).Strict :=
  fun _ _ _ _ _ => nofun

/-- A body disarms the actor, or arms it for a token, or is given a token for nothing. -/
theorem body_takes {action : Action (Instance W Rearming)}
    (listed : action ∈ (type : ActorType W Rearming).actions)
    {self after : Instance W Rearming} {values : List Value} {result : ActionResult}
    (guard : action.open? self = true)
    (ran : (action.body self values).value = (after, .ok result)) :
    result ≠ .fired false ∧ stock after + 1 ≤ stock self + 2 * demand "in" action.inputs := by
  simp only [type, List.mem_cons, List.not_mem_nil, or_false] at listed
  rcases listed with rfl | rfl | rfl
  · have armed : self.model.armed = true := guard
    cases ran
    refine ⟨by simp [ActionResult.one], ?_⟩
    simp [stock, armed]
  · cases ran
    refine ⟨by simp [ActionResult.one], ?_⟩
    simp [stock, PortCount.one, demand]
  · cases ran
    refine ⟨by simp [ActionResult.one], ?_⟩
    simp [stock, PortCount.one, demand]

theorem lowers (actor : ActorRef) :
    ((type : ActorType W Rearming).behaviour actor).Lowers (fun _ => True) fun self store =>
      stock self + 2 * (store.tokensOn actor .input "in").length :=
  (strict actor).lowers fun _ listed _ _ _ _ _ guard ran => by
    obtain ⟨fired, less⟩ := body_takes listed guard ran
    exact ⟨fired, trivial, less⟩

end Rearming

/-- A call of a fetcher on a script, in whatever state it is and whatever its ports are like,
returns after at most two firings for each value that the script has left, one for a buffered
response and one for each token on `url`.  A call of a rearming actor returns after at most two
firings for each token on `in`, and one more if the actor is armed. -/
theorem actors_endWithin :
    (∀ (place : Nat) (self : Instance DeviceWorld Fetcher) (store : PortStore),
      self.context.OnScript place →
      (Fetcher.type.behaviour self.actor).EndsWithin
        (2 * (self.context.unread place).length + (if self.model.response.isSome then 1 else 0) +
          (store.tokensOn self.actor .input "url").length) self store) ∧
    ∀ (W : Type) (self : Instance W Rearming) (store : PortStore),
      (Rearming.type.behaviour self.actor).EndsWithin
        (2 * (store.tokensOn self.actor .input "in").length + (if self.model.armed then 1 else 0))
        self store := by
  constructor
  · intro place self store onScript
    have ends := (Fetcher.lowers place self.actor).endsWithin self onScript store
    rw [Nat.one_mul] at ends
    exact ends
  · intro W self store
    have ends := (Rearming.lowers self.actor).endsWithin self trivial store
    rw [Nat.add_comm] at ends
    exact ends

/-- A fetcher with a buffered response, and a script with two more. -/
def busyFetcher : Instance DeviceWorld Fetcher where
  model := { response := some (.int 1), handle := some ⟨Fetcher.capability, 0⟩ }
  context :=
    { table :=
        { actor := ⟨"f"⟩, opened := [(⟨Fetcher.capability, 0⟩, .script 0)], nextId := 1 }
      registry := {}
      world := { scripts := [{ reads := [.int 2, .int 3], writable := true }] } }

/-- Its ports, with room for all it emits, and with the first of two requests handed out. -/
def busyPorts : PortStore where
  actors := KeyMap.ofList [("f",
    { inputs := KeyMap.ofList
        [("url", { capacity := .unbounded, tokens := [.data .null, .data .null], pending := 1 })]
      outputs := KeyMap.ofList [("data", Queue.new .unbounded)] })]

/-- One firing takes both tokens, the one handed out included, so that the bound is not met. -/
theorem busyFetcher_endsWithin :
    busyFetcher.context.OnScript 0 ∧
      (Fetcher.type.behaviour ⟨"f"⟩).EndsWithin 7 busyFetcher busyPorts ∧
      (∃ last final report,
        ((Fetcher.type.behaviour ⟨"f"⟩).fire 8 busyFetcher busyPorts).value =
          some ⟨last, final, .ok report⟩ ∧
        report.actions = ["emit", "receive", "emit", "receive", "emit", "request"]) ∧
      (Rearming.type.behaviour ⟨"r"⟩).EndsWithin 3 (Behaviour.bareInstance ⟨"r"⟩ { armed := true })
        (Behaviour.relayPorts ⟨"r"⟩ [.data .null]) := by
  have onScript : busyFetcher.context.OnScript 0 := by
    refine ⟨by decide, fun entry member => ?_⟩
    obtain rfl := List.mem_singleton.1 member
    rfl
  obtain ⟨fetcher, rearming⟩ := actors_endWithin
  refine ⟨onScript, fetcher 0 busyFetcher busyPorts onScript, ⟨_, _, _, rfl, rfl⟩, ?_⟩
  exact rearming Unit (Behaviour.bareInstance ⟨"r"⟩ { armed := true })
    (Behaviour.relayPorts ⟨"r"⟩ [.data .null])

end Actors

end Dataflow
