import Dataflow.Program.Basic
import Dataflow.Value.Document

/-!
# Reading programs

A program is an object with a list of actions and a list of statements for each hook.  Statements
and conditions are lists that start with a word.  What is missing reads as nothing: an empty
string, zero, null or an empty list.
-/

namespace Dataflow

/-! ## Parts -/

namespace Value

/-- A string, empty if it is none. -/
def text : Value → String
  | str s => s
  | _ => ""

/-- A count, zero if it is none. -/
def count (value : Value) : Nat := value.asNat64?.getD 0

/-- An integer of 64 bits, zero if it is none. -/
def number (value : Value) : Int := value.asInt64?.getD 0

/-- The items of a list, none if it is none. -/
def items : Value → List Value
  | arr items => items
  | _ => []

/-- A member of an object, null if there is none. -/
def field (value : Value) (name : String) : Value := (value.member? name).getD null

end Value

/-- The operands of a statement or condition. -/
structure Operands where
  values : List Value

namespace Operands

/-- An operand, null if there is none. -/
def value (operands : Operands) (place : Nat) : Value := operands.values.getD place .null

/-- An operand as a string. -/
def text (operands : Operands) (place : Nat) : String := (operands.value place).text

/-- An operand as an integer. -/
def number (operands : Operands) (place : Nat) : Int := (operands.value place).number

/-- An operand as a count. -/
def count (operands : Operands) (place : Nat) : Nat := (operands.value place).count

end Operands

/-! ## Conditions and statements -/

/-- Reads a condition; the fuel bounds how deep it is nested. -/
def Condition.ofValue? : Nat → Value → Option Condition
  | 0, _ => none
  | depth + 1, .arr (.str word :: values) =>
    let args : Operands := ⟨values⟩
    match word with
    | "true" => some (.constant true)
    | "false" => some (.constant false)
    | "not" => (Condition.ofValue? depth (args.value 0)).map .not
    | "lt" => some (.less (args.text 0) (args.number 1))
    | "ge" => some (.atLeast (args.text 0) (args.number 1))
    | "eq" => some (.equals (args.text 0) (args.number 1))
    | "stash_lt" => some (.stashLess (args.count 0))
    | "stash_ge" => some (.stashAtLeast (args.count 0))
    | "can_read" => some (.canRead (args.text 0))
    | "can_write" => some (.canWrite (args.text 0))
    | "open_eq" => some (.openCount (args.count 0))
    | "in_len" => some (.inputCount (args.count 0))
    | "in_even" => some (.inputEven (args.count 0))
    | "in_gt" => some (.inputAbove (args.count 0) (args.number 1))
    | "in_eq" => some (.inputIs (args.count 0) (args.value 1))
    | _ => none
  | _, _ => none

/-- Reads a condition. -/
def Condition.read? (value : Value) : Option Condition :=
  Condition.ofValue? (Document.depthLimit + 1) value

/-- Reads a statement; the fuel bounds how deep it is nested. -/
def Statement.ofValue? : Nat → Value → Option Statement
  | 0, _ => none
  | depth + 1, .arr (.str word :: values) =>
    let args : Operands := ⟨values⟩
    match word with
    | "add" => some (.add (args.text 0) (args.number 1))
    | "set" => some (.set (args.text 0) (args.number 1))
    | "stash_in" => some .stashInputs
    | "note" => some (.note (args.value 0))
    | "clear" => some .clear
    | "open" => some (.openCapability (args.text 0) (args.text 1) (args.value 2))
    | "read" => some (.read (args.text 0))
    | "write" => some (.write (args.text 0) (args.value 1))
    | "write_in" => some (.writeInput (args.text 0) (args.count 1))
    | "close" => some (.close (args.text 0))
    | "shut" => some (.shut (args.text 0))
    | "forget" => some (.forget (args.text 0))
    | "fail" => some (.fail (args.text 0))
    | "if" =>
      (Condition.read? (args.value 0)).bind fun condition =>
        (Statement.ofValue? depth (args.value 1)).map (.when condition)
    | "fired" => some (.answer true)
    | "declined" => some (.answer false)
    | "echo" => some .echo
    | "reverse" => some .reverse
    | "array" => some .array
    | "sum" => some .sum
    | "emit" => some (.emit (args.value 0).items)
    | "emit_var" => some (.emitVariable (args.text 0))
    | "emit_stash" => some .emitStash
    | "actor" => some .emitActor
    | _ => none
  | _, _ => none

/-- Reads a statement. -/
def Statement.read? (value : Value) : Option Statement :=
  Statement.ofValue? (Document.depthLimit + 1) value

/-! ## Actions and programs -/

/-- Reads a declared port: its name alone stands for one token. -/
def PortCount.ofValue : Value → PortCount
  | .str port => .one port
  | value =>
    let args : Operands := ⟨value.items⟩
    ⟨args.text 0, args.count 1⟩

/-- Reads an action of a program. -/
def ProgramAction.ofValue? (value : Value) : Option ProgramAction := do
  let conditions (name : String) : Option (Option (List Condition)) :=
    match value.member? name with
    | none => some none
    | some list => (list.items.mapM Condition.read?).map some
  let guard ← conditions "guard"
  let inputGuard ← conditions "when"
  let body ← (value.field "body").items.mapM Statement.read?
  some
    { name := (value.field "name").text
      guard
      inputGuard
      inputs := (value.field "inputs").items.map PortCount.ofValue
      outputs := (value.field "outputs").items.map PortCount.ofValue
      body }

/-- Reads a program. -/
def Program.ofValue? (value : Value) : Option Program := do
  let statements (name : String) : Option (List Statement) :=
    (value.field name).items.mapM Statement.read?
  let actions ← (value.field "actions").items.mapM ProgramAction.ofValue?
  let init ← statements "init"
  let willMigrate ← statements "will_migrate"
  let didMigrate ← statements "did_migrate"
  let willEnd ← statements "will_end"
  let onException ← statements "on_exception"
  some { actions, init, willMigrate, didMigrate, willEnd, onException }

end Dataflow
