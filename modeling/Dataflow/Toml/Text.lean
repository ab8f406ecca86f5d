import Dataflow.Text.Digits

/-!
# Strings, keys and blanks in TOML text

Readers for the parts of a line below its values.  Each answers what it has read and the text after
it, or nothing if the text does not start with such a part.
-/

namespace Dataflow.Toml

open Text (hexValue? word?)

/-! ## Characters -/

/-- White space within a line. -/
def isBlank (c : Char) : Bool := c = ' ' || c = '\t'

/-- The characters of comments and strings: all but control characters, the tab aside. -/
def isPlain (c : Char) : Bool := c = '\t' || (0x20 ≤ c.toNat && c.toNat ≠ 0x7f)

/-- The characters of keys without quotes. -/
def isBare (c : Char) : Bool :=
  Text.isDigit c || ('a' ≤ c && c ≤ 'z') || ('A' ≤ c && c ≤ 'Z') || c = '-' || c = '_'

/-! ## Blanks, comments and line ends -/

/-- The text after any white space within the line. -/
def skipBlank (text : List Char) : List Char := text.dropWhile isBlank

/-- The text after a line end. -/
def newline? : List Char → Option (List Char)
  | '\n' :: rest => some rest
  | '\r' :: '\n' :: rest => some rest
  | _ => none

/-- The text after white space and line ends. -/
def skipBlankLines : List Char → List Char
  | '\r' :: '\n' :: rest => skipBlankLines rest
  | c :: rest => if isBlank c || c = '\n' then skipBlankLines rest else c :: rest
  | [] => []

/-- The text after white space, line ends and comments; `comment` tells whether the text starts in
the middle of a comment. -/
def skipComments (comment : Bool) : List Char → List Char
  | '\r' :: '\n' :: rest => skipComments false rest
  | c :: rest =>
    if comment && isPlain c then skipComments true rest
    else if c = '#' then skipComments true rest
    else if isBlank c || c = '\n' then skipComments false rest
    else c :: rest
  | [] => []

/-- The text after the end of a line that has been read, which may have a comment. -/
def lineEnd? (text : List Char) : Option (List Char) :=
  let text :=
    match skipBlank text with
    | '#' :: rest => rest.dropWhile isPlain
    | rest => rest
  if text.isEmpty then some [] else newline? text

/-! ## Strings -/

/-- The character whose code point these hexadecimal digits write. -/
def codePoint? (digits : List Char) : Option Char :=
  (digits.mapM hexValue?).bind fun values =>
    let code := values.foldl (fun n digit => 16 * n + digit) 0
    if h : code.isValidChar then some (Char.ofNatAux code h) else none

/-- The character that an escape stands for, after its backslash. -/
def escape? : List Char → Option (Char × List Char)
  | 'b' :: rest => some ('\x08', rest)
  | 't' :: rest => some ('\t', rest)
  | 'n' :: rest => some ('\n', rest)
  | 'f' :: rest => some ('\x0c', rest)
  | 'r' :: rest => some ('\r', rest)
  | '"' :: rest => some ('"', rest)
  | '\\' :: rest => some ('\\', rest)
  | 'u' :: rest =>
    if rest.length < 4 then none else (codePoint? (rest.take 4)).map (·, rest.drop 4)
  | 'U' :: rest =>
    if rest.length < 8 then none else (codePoint? (rest.take 8)).map (·, rest.drop 8)
  | _ => none

/-- The rest of a string with escapes.  The fuel bounds the number of its characters. -/
def basic? : Nat → List Char → Option (List Char × List Char)
  | 0, _ => none
  | _ + 1, [] => none
  | fuel + 1, c :: rest =>
    if c = '"' then some ([], rest)
    else if c = '\\' then
      (escape? rest).bind fun (c, rest) =>
        (basic? fuel rest).map fun (tail, rest) => (c :: tail, rest)
    else if isPlain c then (basic? fuel rest).map fun (tail, rest) => (c :: tail, rest)
    else none

/-- The rest of a string without escapes. -/
def literal? (text : List Char) : Option (List Char × List Char) :=
  match text.dropWhile fun c => isPlain c && c ≠ '\'' with
  | '\'' :: rest => some (text.takeWhile fun c => isPlain c && c ≠ '\'', rest)
  | _ => none

/-- The rest of a string of several lines between triple quotes.  Up to two quotes may stand
anywhere in it, also right before the closing ones.  With double quotes there are escapes, and a
backslash at the end of a line takes away that line end and all blanks after it.  The fuel bounds
the number of characters. -/
def multiline? (quote : Char) : Nat → List Char → Option (List Char × List Char)
  | 0, _ => none
  | _ + 1, [] => none
  | fuel + 1, c :: rest =>
    if c = quote then
      let more := rest.takeWhile (· = quote)
      let rest := rest.dropWhile (· = quote)
      if more.length < 2 then
        (multiline? quote fuel rest).map fun (tail, rest) => (c :: more ++ tail, rest)
      else if more.length < 5 then some (more.drop 2, rest)
      else none
    else if c = '\\' ∧ quote = '"' then
      match newline? (skipBlank rest) with
      | some rest => multiline? quote fuel (skipBlankLines rest)
      | none =>
        (escape? rest).bind fun (c, rest) =>
          (multiline? quote fuel rest).map fun (tail, rest) => (c :: tail, rest)
    else
      match newline? (c :: rest) with
      | some rest => (multiline? quote fuel rest).map fun (tail, rest) => ('\n' :: tail, rest)
      | none =>
        if isPlain c then
          (multiline? quote fuel rest).map fun (tail, rest) => (c :: tail, rest)
        else none

/-- A string of any kind.  A line end right after opening triple quotes does not count. -/
def string? (text : List Char) : Option (String × List Char) :=
  let inner (rest : List Char) : List Char := (newline? rest).getD rest
  let found : Option (List Char × List Char) :=
    match text with
    | '"' :: '"' :: '"' :: rest => multiline? '"' (rest.length + 1) (inner rest)
    | '\'' :: '\'' :: '\'' :: rest => multiline? '\'' (rest.length + 1) (inner rest)
    | '"' :: rest => basic? (rest.length + 1) rest
    | '\'' :: rest => literal? rest
    | _ => none
  found.map fun (s, rest) => (String.ofList s, rest)

/-! ## Keys -/

/-- A name within a key, with or without quotes. -/
def name? (text : List Char) : Option (String × List Char) :=
  let found : Option (List Char × List Char) :=
    match text with
    | '"' :: rest => basic? (rest.length + 1) rest
    | '\'' :: rest => literal? rest
    | text =>
      let bare := text.takeWhile isBare
      if bare.isEmpty then none else some (bare, text.dropWhile isBare)
  found.map fun (s, rest) => (String.ofList s, rest)

/-- Names separated by dots, with blanks around each.  The fuel bounds the number of names. -/
def names? : Nat → List Char → Option (List String × List Char)
  | 0, _ => none
  | fuel + 1, text =>
    (name? (skipBlank text)).bind fun (name, rest) =>
      match skipBlank rest with
      | '.' :: rest => (names? fuel rest).map fun (names, rest) => (name :: names, rest)
      | rest => some ([name], rest)

end Dataflow.Toml
