import Dataflow.Value.Numeral

/-!
# Reading JSON text

`Document.parse?` reads text by its grammar alone and keeps everything: members in the order of the
text, repeated ones included, numerals by their digits, and strings whose escapes stand for no
text.  What of it has a value is decided where a part is used, so that a part which is ignored need
not have one.  `Value.parse?` uses all of it.
-/

namespace Dataflow

/-- Text read by its grammar.  A string is `none` if one of its escapes is half of a surrogate
pair. -/
inductive Document where
  | null
  | bool (b : Bool)
  | number (numeral : Numeral)
  | str (s : Option String)
  | arr (items : List Document)
  | obj (members : List (Option String × Document))

namespace Document

open Text (isDigit hexValue? word?)

/-! ## Characters -/

/-- White space of the grammar. -/
def isBlank (c : Char) : Bool := c = ' ' || c = '\t' || c = '\n' || c = '\r'

/-- The text after any white space. -/
def skipBlank (text : List Char) : List Char := text.dropWhile isBlank

/-! ## Strings -/

/-- A piece of a string: a character, or a code unit written as an escape. -/
inductive Piece where
  | char (c : Char)
  | unit (n : Nat)

/-- The pieces of a string up to the closing quote, and the text after it.  Control characters must
be escaped. -/
def pieces? : List Char → Option (List Piece × List Char)
  | [] => none
  | '"' :: rest => some ([], rest)
  | '\\' :: 'u' :: a :: b :: c :: d :: rest =>
    match hexValue? a, hexValue? b, hexValue? c, hexValue? d with
    | some a, some b, some c, some d =>
      (pieces? rest).map fun (tail, after) =>
        (.unit (((a * 16 + b) * 16 + c) * 16 + d) :: tail, after)
    | _, _, _, _ => none
  | '\\' :: c :: rest =>
    let escaped : Option Char :=
      match c with
      | '"' => some '"'
      | '\\' => some '\\'
      | '/' => some '/'
      | 'b' => some '\x08'
      | 'f' => some '\x0c'
      | 'n' => some '\n'
      | 'r' => some '\r'
      | 't' => some '\t'
      | _ => none
    match escaped with
    | some e => (pieces? rest).map fun (tail, after) => (.char e :: tail, after)
    | none => none
  | c :: rest =>
    if c.toNat < 32 then none
    else if c = '\\' then none
    else (pieces? rest).map fun (tail, after) => (.char c :: tail, after)

/-- The characters that pieces stand for; a surrogate counts only as half of a pair. -/
def joinPieces? : List Piece → Option (List Char)
  | [] => some []
  | .char c :: rest => (joinPieces? rest).map (c :: ·)
  | .unit high :: .unit low :: rest =>
    if 0xD800 ≤ high ∧ high < 0xDC00 then
      if 0xDC00 ≤ low ∧ low < 0xE000 then
        (joinPieces? rest).map
          (Char.ofNat (0x10000 + (high - 0xD800) * 0x400 + (low - 0xDC00)) :: ·)
      else none
    else if 0xDC00 ≤ high ∧ high < 0xE000 then none
    else (joinPieces? (.unit low :: rest)).map (Char.ofNat high :: ·)
  | .unit code :: rest =>
    if 0xD800 ≤ code ∧ code < 0xE000 then none
    else (joinPieces? rest).map (Char.ofNat code :: ·)

/-- A string after its opening quote. -/
def string? (text : List Char) : Option (Option String × List Char) :=
  (pieces? text).map fun (pieces, rest) => ((joinPieces? pieces).map String.ofList, rest)

/-! ## Numerals -/

/-- At least one digit. -/
def digits? (text : List Char) : Option (List Char × List Char) :=
  match text.takeWhile isDigit with
  | [] => none
  | digits => some (digits, text.dropWhile isDigit)

/-- The exponent of a numeral, if one follows; `none` if it is started and has no digits. -/
def exponent? (text : List Char) : Option (Option (Bool × List Char) × List Char) :=
  match text with
  | c :: rest =>
    if c = 'e' || c = 'E' then
      let (down, rest) :=
        match rest with
        | '+' :: rest => (false, rest)
        | '-' :: rest => (true, rest)
        | rest => (false, rest)
      (digits? rest).map fun (digits, rest) => (some (down, digits), rest)
    else some (none, text)
  | [] => some (none, [])

/-- A numeral; no digit may follow a leading zero. -/
def numeral? (text : List Char) : Option (Numeral × List Char) := do
  let (negative, text) :=
    match text with
    | '-' :: rest => (true, rest)
    | text => (false, text)
  let (whole, text) ←
    match text with
    | '0' :: rest => some (['0'], rest)
    | text => digits? text
  let (fraction, text) ←
    match text with
    | '.' :: rest => (digits? rest).map fun (digits, rest) => (some digits, rest)
    | text => some (none, text)
  if (text.head?.map isDigit).getD false then none
  else do
    let (exponent, text) ← exponent? text
    some ({ negative, whole, fraction, exponent }, text)

/-! ## Documents -/

mutual

/-- One document at the start of the text, and what follows it. -/
def read? : Nat → List Char → Option (Document × List Char)
  | 0, _ => none
  | fuel + 1, text =>
    match skipBlank text with
    | '"' :: rest => (string? rest).map fun (s, rest) => (.str s, rest)
    | '[' :: rest =>
      match skipBlank rest with
      | ']' :: rest => some (.arr [], rest)
      | rest => (items? fuel rest).map fun (items, rest) => (.arr items, rest)
    | '{' :: rest =>
      match skipBlank rest with
      | '}' :: rest => some (.obj [], rest)
      | rest => (members? fuel rest).map fun (members, rest) => (.obj members, rest)
    | 'n' :: rest => (word? "ull".toList rest).map fun rest => (.null, rest)
    | 't' :: rest => (word? "rue".toList rest).map fun rest => (.bool true, rest)
    | 'f' :: rest => (word? "alse".toList rest).map fun rest => (.bool false, rest)
    | text => (numeral? text).map fun (numeral, rest) => (.number numeral, rest)

/-- The items of a list up to its closing bracket. -/
def items? : Nat → List Char → Option (List Document × List Char)
  | 0, _ => none
  | fuel + 1, text =>
    match read? fuel text with
    | none => none
    | some (item, rest) =>
      match skipBlank rest with
      | ',' :: rest => (items? fuel rest).map fun (items, rest) => (item :: items, rest)
      | ']' :: rest => some ([item], rest)
      | _ => none

/-- The members of an object up to its closing brace. -/
def members? : Nat → List Char → Option (List (Option String × Document) × List Char)
  | 0, _ => none
  | fuel + 1, text =>
    match skipBlank text with
    | '"' :: rest =>
      match string? rest with
      | none => none
      | some (name, rest) =>
        match skipBlank rest with
        | ':' :: rest =>
          match read? fuel rest with
          | none => none
          | some (item, rest) =>
            match skipBlank rest with
            | ',' :: rest =>
              (members? fuel rest).map fun (members, rest) => ((name, item) :: members, rest)
            | '}' :: rest => some ([(name, item)], rest)
            | _ => none
        | _ => none
    | _ => none

end

/-- The document that makes up the whole text, white space around it aside. -/
def parse? (text : String) : Option Document :=
  match read? (2 * text.length + 2) text.toList with
  | some (document, rest) => if (skipBlank rest).isEmpty then some document else none
  | none => none

/-! ## Values -/

/-- How deep lists and objects may be nested in text that is read as a value. -/
def depthLimit : Nat := 127

mutual

/-- The value of a document whose lists and objects may nest `depth` more times. -/
def value? : Nat → Document → Option Value
  | _, null => some .null
  | _, bool b => some (.bool b)
  | _, number numeral => numeral.value?
  | _, str s => s.map .str
  | 0, arr _ => none
  | depth + 1, arr items => (values? depth items).map .arr
  | 0, obj _ => none
  | depth + 1, obj members => (memberValues? depth members).map Value.object

/-- The values of the items of a list. -/
def values? : Nat → List Document → Option (List Value)
  | _, [] => some []
  | depth, item :: rest =>
    match value? depth item, values? depth rest with
    | some item, some rest => some (item :: rest)
    | _, _ => none

/-- The names and values of the members of an object. -/
def memberValues? : Nat → List (Option String × Document) → Option (List (String × Value))
  | _, [] => some []
  | depth, (name, item) :: rest =>
    match name, value? depth item, memberValues? depth rest with
    | some name, some item, some rest => some ((name, item) :: rest)
    | _, _, _ => none

end

/-! ## Records -/

/-- The only member of this name, if all names are readable and no other member has it. -/
def onlyMember? (name : String) (members : List (Option String × Document)) :
    Option Document :=
  if members.all (·.1.isSome) then
    match members.filter fun entry => entry.1 = some name with
    | [(_, item)] => some item
    | _ => none
  else none

end Document

/-- The value that makes up the whole text. -/
def Value.parse? (text : String) : Option Value :=
  (Document.parse? text).bind (Document.value? Document.depthLimit)

end Dataflow
