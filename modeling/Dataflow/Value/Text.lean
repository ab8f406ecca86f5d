import Dataflow.Value.Basic
import Dataflow.Number.Shortest

/-!
# The compact text of a value

No spaces, members in name order, and in strings only the quote, the backslash and the control
characters escaped.
-/

namespace Dataflow

/-! ## Strings -/

/-- A hexadecimal digit, in lower case. -/
def hexDigit (n : Nat) : Char := (Nat.toDigits 16 n).headD '0'

/-- How a character stands inside a quoted string. -/
def escapeChar (c : Char) : List Char :=
  match c with
  | '"' => ['\\', '"']
  | '\\' => ['\\', '\\']
  | '\n' => ['\\', 'n']
  | '\r' => ['\\', 'r']
  | '\t' => ['\\', 't']
  | '\x08' => ['\\', 'b']
  | '\x0c' => ['\\', 'f']
  | c =>
    if c.toNat < 32 then ['\\', 'u', '0', '0', hexDigit (c.toNat / 16), hexDigit (c.toNat % 16)]
    else [c]

/-- A string between quotes. -/
def quoted (s : String) : List Char := '"' :: (s.toList.flatMap escapeChar ++ ['"'])

namespace Value

/-! ## Values -/

mutual

/-- The characters of the compact text. -/
def write : Value → List Char
  | null => "null".toList
  | bool b => if b then "true".toList else "false".toList
  | int n => (toString n).toList
  | float x => (Binary.text64 x).toList
  | str s => quoted s
  | arr items => '[' :: (writeItems items ++ [']'])
  | obj members => '{' :: (writeMembers members ++ ['}'])

/-- The items of a list, separated by commas. -/
def writeItems : List Value → List Char
  | [] => []
  | [item] => write item
  | item :: next :: rest => write item ++ ',' :: writeItems (next :: rest)

/-- The members of an object, separated by commas. -/
def writeMembers : List (String × Value) → List Char
  | [] => []
  | [(name, value)] => quoted name ++ ':' :: write value
  | (name, value) :: next :: rest =>
    quoted name ++ ':' :: (write value ++ ',' :: writeMembers (next :: rest))

end

/-- The compact text of a value. -/
def compact (value : Value) : String := String.ofList value.write

end Value

end Dataflow
