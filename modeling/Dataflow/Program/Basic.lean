import Dataflow.Actor.Type

/-!
# Programs

Actors whose actions and hooks are given as data.  A program's state are integer variables, a stash
of values, and the handles it holds by label; the handles do not move with the actor.  Statements
run in order until one of them answers; what was changed before a failure stays changed.
-/

namespace Dataflow

/-! ## The language -/

/-- A condition on the state of a program and the inputs of an action. -/
inductive Condition where
  | constant (b : Bool)
  | not (condition : Condition)
  /-- A variable is less than a number. -/
  | less (name : String) (k : Int)
  /-- A variable is at least a number. -/
  | atLeast (name : String) (k : Int)
  /-- A variable equals a number. -/
  | equals (name : String) (k : Int)
  /-- The stash is shorter than a number. -/
  | stashLess (k : Nat)
  /-- The stash is at least as long as a number. -/
  | stashAtLeast (k : Nat)
  | canRead (label : String)
  | canWrite (label : String)
  /-- So many handles are open. -/
  | openCount (k : Nat)
  /-- There are so many inputs. -/
  | inputCount (k : Nat)
  /-- An input is an even integer. -/
  | inputEven (place : Nat)
  /-- An input is an integer above a number. -/
  | inputAbove (place : Nat) (k : Int)
  /-- An input equals a value. -/
  | inputIs (place : Nat) (value : Value)

/-- A statement. -/
inductive Statement where
  /-- Adds a number to a variable. -/
  | add (name : String) (k : Int)
  /-- Sets a variable. -/
  | set (name : String) (k : Int)
  /-- Stashes all inputs. -/
  | stashInputs
  /-- Stashes a value. -/
  | note (value : Value)
  /-- Empties the stash. -/
  | clear
  /-- Opens a capability and holds its handle. -/
  | openCapability (label name : String) (config : Value)
  /-- Stashes a value read from a capability. -/
  | read (label : String)
  /-- Writes a value to a capability. -/
  | write (label : String) (value : Value)
  /-- Writes an input to a capability, null if there is none. -/
  | writeInput (label : String) (place : Nat)
  /-- Drops a label and closes its handle. -/
  | close (label : String)
  /-- Closes a handle, keeps its label, and stashes whether it was open. -/
  | shut (label : String)
  /-- Drops a label. -/
  | forget (label : String)
  /-- Fails. -/
  | fail (message : String)
  /-- Runs a statement if a condition holds. -/
  | when (condition : Condition) (statement : Statement)
  /-- Answers that the action fired, or that it declined. -/
  | answer (fired : Bool)
  /-- Answers with all inputs. -/
  | echo
  /-- Answers with all inputs in reverse. -/
  | reverse
  /-- Answers with one list of all inputs. -/
  | array
  /-- Answers with the sum of the inputs that are integers. -/
  | sum
  /-- Answers with values. -/
  | emit (values : List Value)
  /-- Answers with a variable. -/
  | emitVariable (name : String)
  /-- Answers with the stash, which is emptied. -/
  | emitStash
  /-- Answers with the identity of the actor. -/
  | emitActor

/-- An action of a program. -/
structure ProgramAction where
  name : String
  guard : Option (List Condition) := none
  inputGuard : Option (List Condition) := none
  inputs : List PortCount := []
  outputs : List PortCount := []
  body : List Statement := []

/-- A program: actions by priority, and statements for each hook. -/
structure Program where
  actions : List ProgramAction := []
  init : List Statement := []
  willMigrate : List Statement := []
  didMigrate : List Statement := []
  willEnd : List Statement := []
  onException : List Statement := []

/-! ## State -/

/-- The state of a program. -/
structure ProgramState where
  vars : KeyMap Int := ∅
  stash : List Value := []
  handles : KeyMap Handle := ∅

namespace ProgramState

/-- A variable; variables start at zero. -/
def lookup (state : ProgramState) (name : String) : Int := (state.vars.get? name).getD 0

/-- Appends to the stash. -/
def keep (state : ProgramState) (values : List Value) : ProgramState :=
  { state with stash := state.stash ++ values }

/-- Variables and stash move with the actor. -/
def managed : ManagedType ProgramState where
  name := "Program"
  default := {}
  fields :=
    .plain "vars" (.keyMap (.signed 64)) ProgramState.vars (fun vars s => { s with vars }) <|
    .plain "stash" (.list .value) ProgramState.stash (fun stash s => { s with stash }) .nil

end ProgramState

/-! ## Meaning -/

section

variable {W : Type}

/-- A program at work. -/
abbrev ProgramInstance (W : Type) := Instance W ProgramState

namespace Condition

/-- Whether a condition holds. -/
def holds (self : ProgramInstance W) (inputs : List Value) : Condition → Bool
  | constant b => b
  | not condition => !condition.holds self inputs
  | less name k => self.model.lookup name < k
  | atLeast name k => k ≤ self.model.lookup name
  | equals name k => self.model.lookup name = k
  | stashLess k => self.model.stash.length < k
  | stashAtLeast k => k ≤ self.model.stash.length
  | canRead label => (self.model.handles.get? label).any self.context.canRead
  | canWrite label => (self.model.handles.get? label).any self.context.canWrite
  | openCount k => self.context.openHandles.length = k
  | inputCount k => inputs.length = k
  | inputEven place => (inputs[place]?.bind Value.asInt64?).any fun n => n % 2 = 0
  | inputAbove place k => (inputs[place]?.bind Value.asInt64?).any fun n => k < n
  | inputIs place value => inputs[place]?.any fun input => input.same value

/-- Whether all conditions hold. -/
def allHold (conditions : List Condition) (self : ProgramInstance W) (inputs : List Value) : Bool :=
  conditions.all fun condition => condition.holds self inputs

end Condition

namespace Statement

/-- What a statement leaves behind: a failure, an answer, or nothing, so that the next one runs. -/
abbrev Progress (W : Type) := ProgramInstance W × Except Failure (Option ActionResult)

/-- Goes on with the next statement. -/
def next (self : ProgramInstance W) : Logged (Progress W) := pure (self, .ok none)

/-- Ends with an answer. -/
def finish (self : ProgramInstance W) (result : ActionResult) : Logged (Progress W) :=
  pure (self, .ok (some result))

/-- Works with the handle of a label; it is a failure if there is none. -/
def withHandle (self : ProgramInstance W) (label : String)
    (work : Handle → Logged (Progress W)) : Logged (Progress W) :=
  match self.model.handles.get? label with
  | some handle => work handle
  | none => pure (self, .error ⟨s!"no handle '{label}'", []⟩)

/-- Writes to a capability. -/
def writeTo (self : ProgramInstance W) (value : Value) (handle : Handle) : Logged (Progress W) :=
  match self.context.write handle value with
  | (context, .ok ()) => next { self with context }
  | (context, .error e) => pure ({ self with context }, .error e.failure)

/-- Runs one statement. -/
def run (self : ProgramInstance W) (inputs : List Value) : Statement → Logged (Progress W)
  | add name k =>
    let vars := self.model.vars.insert name (self.model.lookup name + k)
    next { self with model := { self.model with vars } }
  | set name k =>
    let vars := self.model.vars.insert name k
    next { self with model := { self.model with vars } }
  | stashInputs => next { self with model := self.model.keep inputs }
  | note value => next { self with model := self.model.keep [value] }
  | clear => next { self with model := { self.model with stash := [] } }
  | openCapability label name config => do
    match ← self.context.openCapability name config with
    | (context, .error e) => pure ({ self with context }, .error e.failure)
    | (context, .ok handle) =>
      let handles := self.model.handles.insert label handle
      next { context, model := { self.model with handles } }
  | read label =>
    withHandle self label fun handle =>
      match self.context.read handle with
      | (context, .ok value) => next { context, model := self.model.keep [value] }
      | (context, .error e) => pure ({ self with context }, .error e.failure)
  | write label value => withHandle self label (writeTo self value)
  | writeInput label place => withHandle self label (writeTo self (inputs[place]?.getD .null))
  | close label =>
    withHandle self label fun handle => do
      let (context, _) ← self.context.close handle
      next { context, model := { self.model with handles := self.model.handles.erase label } }
  | shut label =>
    withHandle self label fun handle => do
      let (context, wasOpen) ← self.context.close handle
      next { context, model := self.model.keep [.bool wasOpen] }
  | forget label =>
    next { self with model := { self.model with handles := self.model.handles.erase label } }
  | fail message => pure (self, .error ⟨message, []⟩)
  | when condition statement =>
    if condition.holds self inputs then statement.run self inputs else next self
  | answer fired => finish self (.fired fired)
  | echo => finish self (.produced inputs)
  | reverse => finish self (.produced inputs.reverse)
  | array => finish self (.one (.arr inputs))
  | sum => finish self (.one (.int (Value.intSum inputs)))
  | emit values => finish self (.produced values)
  | emitVariable name => finish self (.one (.int (self.model.lookup name)))
  | emitStash =>
    finish { self with model := { self.model with stash := [] } } (.produced self.model.stash)
  | emitActor => finish self (.one (.str self.context.actor.id))

/-- Runs statements until one answers; without an answer the action fired. -/
def runAll (inputs : List Value) :
    List Statement → ProgramInstance W → Logged (ProgramInstance W × Except Failure ActionResult)
  | [], self => pure (self, .ok (.fired true))
  | statement :: rest, self => do
    match ← statement.run self inputs with
    | (self, .error e) => pure (self, .error e)
    | (self, .ok (some result)) => pure (self, .ok result)
    | (self, .ok none) => runAll inputs rest self

/-- Statements as a hook: there are no inputs, and an answer only ends them. -/
def hook (statements : List Statement) : Hook W ProgramState := fun self => do
  let (self, result) ← runAll [] statements self
  pure (self, result.map fun _ => ())

end Statement

/-- An action of a program as the engine sees it. -/
def ProgramAction.action (action : ProgramAction) : Action (ProgramInstance W) where
  name := action.name
  guard := action.guard.map fun conditions self => Condition.allHold conditions self []
  inputGuard := action.inputGuard.map Condition.allHold
  inputs := action.inputs
  outputs := action.outputs
  body self inputs := Statement.runAll inputs action.body self

namespace Program

/-- Starts a program: a configuration other than null goes onto the stash first. -/
def start (program : Program) (config : Value) : Hook W ProgramState := fun self =>
  let model := if config.isNull then self.model else self.model.keep [config]
  Statement.hook program.init { self with model }

/-- The type of actors that run a program. -/
def type (program : Program) : ActorType W ProgramState where
  name := "Program"
  managed := ProgramState.managed
  actions := program.actions.map ProgramAction.action
  init config := some (program.start config)
  willMigrate := Statement.hook program.willMigrate
  didMigrate := Statement.hook program.didMigrate
  willEnd := Statement.hook program.willEnd

/-- The type of actors that run a program, exception tokens included.  Its statements for these
are given the name of the action and the reason as inputs. -/
def handlerType (program : Program) : ActorType W ProgramState :=
  { program.type with
    name := "Handler"
    onException := fun self action reason =>
      Statement.runAll [.str action, .str reason] program.onException self }

end Program

end

end Dataflow
