import Dataflow.Actor.Type

/-!
# Actors that calculate

Running totals, doubling, and two actors that keep or break the promise of how many values they
produce.
-/

namespace Dataflow.Actors

variable {W : Type}

/-! ## Accumulator -/

/-- Statistics of the numbers seen so far. -/
structure Stats where
  count : Nat := 0
  max : Option Int := none

/-- The managed fields of statistics. -/
def Stats.managed : ManagedType Stats where
  name := "Stats"
  default := {}
  fields :=
    .plain "count" (.unsigned 64) Stats.count (fun count s => { s with count }) <|
    .plain "max" (.option (.signed 64)) Stats.max (fun max s => { s with max }) .nil

/-- A running total.  The history is lost when the actor moves. -/
structure Accumulator where
  total : Int := 0
  stats : Stats := {}
  history : List Int := []

namespace Accumulator

/-- The total and its statistics move with the actor. -/
def managed : ManagedType Accumulator where
  name := "Accumulator"
  default := {}
  fields :=
    .plain "total" (.signed 64) Accumulator.total (fun total s => { s with total }) <|
    .nested "stats" Stats.managed.name Stats.managed.default Stats.managed.fields
      Accumulator.stats (fun stats s => { s with stats }) .nil

/-- Adds one number; anything else counts as zero. -/
def add (self : Accumulator) (values : List Value) :
    Accumulator × Except Failure ActionResult :=
  let n := ((values.headD .null).asInt64?).getD 0
  let total := self.total + n
  ({ total
     stats :=
      { count := self.stats.count + 1
        max := some ((self.stats.max.map (Max.max · n)).getD n) }
     history := self.history ++ [n] },
    .ok (.one (.int total)))

/-- Adds every number from `in` to a running total, which it emits on `sum`. -/
def type : ActorType W Accumulator where
  name := "Accumulator"
  managed := managed
  actions :=
    [{ name := "add", inputs := [.one "in"], outputs := [.one "sum"], body := onModel add }]
  init := ActorType.unconfigured

end Accumulator

/-! ## Doubler -/

/-- Counts the numbers it has doubled. -/
structure Doubler where
  fired : Nat := 0

namespace Doubler

/-- The count moves with the actor. -/
def managed : ManagedType Doubler where
  name := "Doubler"
  default := {}
  fields := .plain "fired" (.unsigned 64) Doubler.fired (fun fired _ => { fired }) .nil

/-- Doubles one number, and fails on anything else. -/
def double (self : Doubler) (values : List Value) : Doubler × Except Failure ActionResult :=
  let value := values.headD .null
  match value.asInt64? with
  | some n => ({ fired := self.fired + 1 }, .ok (.one (.int (n * 2))))
  | none => (self, .error ⟨"expected a number, got " ++ value.compact, []⟩)

/-- Reads a number from `in` and emits twice its value on `out`. -/
def type : ActorType W Doubler where
  name := "Doubler"
  managed := managed
  actions :=
    [{ name := "double", inputs := [.one "in"], outputs := [.one "out"], body := onModel double }]
  init := ActorType.unconfigured

end Doubler

/-! ## Faulty -/

/-- Whether and how an actor misbehaves. -/
inductive FaultMode where
  /-- It sums its inputs as declared. -/
  | sound
  /-- Its body fails. -/
  | fail
  /-- It produces two values for one output. -/
  | wrongArity
  /-- It produces nothing for its output. -/
  | noOutput
  deriving DecidableEq, Repr

/-- Reads a mode. -/
def FaultMode.decode : Decoder FaultMode := fun value =>
  match Decoder.choice value with
  | some (name, payload) =>
    if Decoder.bare payload then
      match name with
      | "sound" => some sound
      | "fail" => some fail
      | "wrong_arity" => some wrongArity
      | "no_output" => some noOutput
      | _ => none
    else none
  | none => none

/-- Merges pairs, unless it is told to misbehave. -/
structure Faulty where
  mode : FaultMode := .sound
  merged : Nat := 0

namespace Faulty

/-- The count moves with the actor, the mode does not. -/
def managed : ManagedType Faulty where
  name := "Faulty"
  default := {}
  fields := .plain "merged" (.unsigned 64) Faulty.merged (fun merged s => { s with merged }) .nil

/-- Merges its inputs by the mode. -/
def merge (self : Faulty) (values : List Value) : Faulty × Except Failure ActionResult :=
  let total := Value.int (Value.intSum values)
  match self.mode with
  | .sound => ({ self with merged := self.merged + 1 }, .ok (.one total))
  | .fail => (self, .error ⟨"merge exploded", []⟩)
  | .wrongArity => (self, .ok (.produced [total, total]))
  | .noOutput => (self, .ok (.fired true))

/-- Starts in a mode. -/
def init (value : Value) : Option (Hook W Faulty) :=
  (FaultMode.decode value).map fun mode self =>
    pure ({ self with model := { self.model with mode } }, .ok ())

/-- Reads two tokens from `x` and writes their sum to `y`. -/
def type : ActorType W Faulty where
  name := "Faulty"
  managed := managed
  actions :=
    [{ name := "merge", inputs := [⟨"x", 2⟩], outputs := [.one "y"], body := onModel merge }]
  init := init

end Faulty

/-! ## Splitter -/

/-- Has no fields. -/
structure Splitter where

namespace Splitter

/-- Nothing moves with the actor. -/
def managed : ManagedType Splitter where
  name := "Splitter"
  default := {}
  fields := .nil

/-- Hands on what it is given. -/
def split (self : Splitter) (values : List Value) : Splitter × Except Failure ActionResult :=
  (self, .ok (.produced values))

/-- Declares the outputs `a` and `b`, and produces only one value. -/
def type : ActorType W Splitter where
  name := "Splitter"
  managed := managed
  actions :=
    [{ name := "split", inputs := [.one "in"], outputs := [.one "a", .one "b"],
       body := onModel split }]
  init := ActorType.unconfigured

end Splitter

end Dataflow.Actors
