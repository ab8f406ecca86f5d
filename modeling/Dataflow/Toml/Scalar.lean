import Dataflow.Number.Decimal
import Dataflow.Toml.Text
import Dataflow.Toml.Tree

/-!
# Numbers, dates and times in TOML text

Readers for the values that start with a digit or a sign, and for the words that stand for values.
-/

namespace Dataflow.Toml

open Text (isDigit digitsValue hexValue? word?)

/-! ## Integers -/

/-- Whether every low line in a row of digits stands between two digits, and the row does not end
before a digit; `digit` tells whether a digit stands in front. -/
def grouped (digit : Bool) : List Char → Bool
  | [] => digit
  | c :: rest => if c = '_' then digit && grouped false rest else grouped true rest

/-- Digits, at least one, which single low lines may divide into groups. -/
def digits? (isDigit : Char → Bool) (text : List Char) : Option (List Char × List Char) :=
  let run := text.takeWhile fun c => isDigit c || c = '_'
  if grouped false run then
    some (run.filter (· ≠ '_'), text.dropWhile fun c => isDigit c || c = '_')
  else none

/-- Decimal digits without a leading zero. -/
def whole? (text : List Char) : Option (List Char × List Char) :=
  match digits? isDigit text with
  | some ('0' :: _ :: _, _) => none
  | found => found

/-- The least and the greatest integer. -/
def integerRange : Int × Int := (-0x8000000000000000, 0x7fffffffffffffff)

/-- An integer, if it is in range. -/
def integer? (n : Int) : Option Node :=
  if integerRange.1 ≤ n ∧ n ≤ integerRange.2 then some (.int n) else none

/-- An integer to another base, after the letter for the base. -/
def based? (base : Nat) (text : List Char) : Option (Node × List Char) :=
  let isDigit (c : Char) : Bool := ((hexValue? c).map fun digit => decide (digit < base)).getD false
  (digits? isDigit text).bind fun (digits, rest) =>
    let value := digits.foldl (fun n c => base * n + (hexValue? c).getD 0) 0
    (integer? value).map (·, rest)

/-! ## Numbers -/

/-- A sign, and whether it is a minus. -/
def sign : List Char → Bool × List Char
  | '-' :: rest => (true, rest)
  | '+' :: rest => (false, rest)
  | text => (false, text)

/-- The digits after a point, if there is one. -/
def fraction? : List Char → Option (Option (List Char) × List Char)
  | '.' :: rest => (digits? isDigit rest).map fun (digits, rest) => (some digits, rest)
  | text => some (none, text)

/-- The exponent of a number, if there is one. -/
def exponent? : List Char → Option (Option Int × List Char)
  | [] => some (none, [])
  | c :: rest =>
    if c = 'e' ∨ c = 'E' then
      (digits? isDigit (sign rest).2).map fun (digits, after) =>
        (some (if (sign rest).1 then -(digitsValue digits : Int) else digitsValue digits), after)
    else some (none, c :: rest)

/-- A decimal number without its sign.  A positive number too large to be finite is refused, a
negative one is minus infinity. -/
def decimal? (negative : Bool) (text : List Char) : Option (Node × List Char) :=
  (whole? text).bind fun (whole, text) =>
  (fraction? text).bind fun (fraction, text) =>
  (exponent? text).bind fun (exponent, text) =>
    match fraction, exponent with
    | none, none =>
      let n : Int := digitsValue whole
      (integer? (if negative then -n else n)).map (·, text)
    | fraction, exponent =>
      let places := fraction.getD []
      let x := Binary64.ofDecimal negative (whole ++ places)
        (exponent.getD 0 - (places.length : Int))
      if x = .infinite false then none else some (.float x, text)

/-- A number.  Those to other bases have no sign. -/
def number? (text : List Char) : Option (Node × List Char) :=
  match text with
  | '0' :: 'x' :: rest => based? 16 rest
  | '0' :: 'o' :: rest => based? 8 rest
  | '0' :: 'b' :: rest => based? 2 rest
  | text =>
    let (negative, rest) := sign text
    match word? "inf".toList rest, word? "nan".toList rest with
    | some rest, _ => some (.float (.infinite negative), rest)
    | none, some rest => some (.float ⟨negative, (Binary.nan : Binary64).magnitude⟩, rest)
    | none, none => decimal? negative rest

/-! ## Dates and times -/

/-- A number of exactly this many digits in a range. -/
def field? (width least greatest : Nat) (text : List Char) : Option (Nat × List Char) :=
  let digits := text.take width
  let n := digitsValue digits
  if digits.length = width ∧ digits.all isDigit ∧ least ≤ n ∧ n ≤ greatest then
    some (n, text.drop width)
  else none

/-- Whether a year has a 29th of February. -/
def isLeapYear (year : Nat) : Bool := year % 4 = 0 && (year % 100 ≠ 0 || year % 400 = 0)

/-- The number of days of a month. -/
def daysInMonth (year month : Nat) : Nat :=
  if month = 2 then if isLeapYear year then 29 else 28
  else if month = 4 ∨ month = 6 ∨ month = 9 ∨ month = 11 then 30
  else 31

/-- The text after a date. -/
def date? (text : List Char) : Option (List Char) := do
  let (year, text) ← field? 4 0 9999 text
  let text ← word? ['-'] text
  let (month, text) ← field? 2 1 12 text
  let text ← word? ['-'] text
  let (_, text) ← field? 2 1 (daysInMonth year month) text
  pure text

/-- The text after a time of day. -/
def time? (text : List Char) : Option (List Char) := do
  let (_, text) ← field? 2 0 23 text
  let text ← word? [':'] text
  let (_, text) ← field? 2 0 59 text
  let text ← word? [':'] text
  let (_, text) ← field? 2 0 60 text
  match text with
  | '.' :: c :: rest => if isDigit c then some (rest.dropWhile isDigit) else some text
  | text => some text

/-- The text after a distance from universal time. -/
def offset? : List Char → Option (List Char)
  | [] => none
  | c :: text =>
    if c = 'Z' ∨ c = 'z' then some text
    else if c = '+' ∨ c = '-' then do
      let (_, text) ← field? 2 0 23 text
      let text ← word? [':'] text
      let (_, text) ← field? 2 0 59 text
      pure text
    else none

/-- The text after a date, a time, or a date and a time. -/
def moment? (text : List Char) : Option (List Char) :=
  match date? text with
  | none => time? text
  | some [] => some []
  | some (c :: rest) =>
    if c = 'T' ∨ c = 't' ∨ c = ' ' then
      match time? rest with
      | none => some (c :: rest)
      | some rest => some ((offset? rest).getD rest)
    else some (c :: rest)

/-! ## Scalars -/

/-- A value that is neither a list nor a table. -/
def scalar? (text : List Char) : Option (Node × List Char) :=
  match text with
  | '"' :: _ | '\'' :: _ => (string? text).map fun (s, rest) => (.str s, rest)
  | 't' :: rest => (word? "rue".toList rest).map fun rest => (.bool true, rest)
  | 'f' :: rest => (word? "alse".toList rest).map fun rest => (.bool false, rest)
  | text =>
    match moment? text with
    | some rest => some (.moment, rest)
    | none => number? text

end Dataflow.Toml
