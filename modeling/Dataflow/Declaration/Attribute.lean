import Dataflow.Text.Digits
import Dataflow.Text.Split

/-!
# Attributes of declarations

The text of an attribute is a path, alone, with a list in brackets of any kind, or with a value
after an equals sign.  What is in a list is kept as lexemes, because only attributes of some paths
are ever looked into.
-/

namespace Dataflow.Declaration

/-! ## Lexemes -/

/-- A piece of the text of an attribute. -/
inductive Lexeme where
  /-- A name or a keyword. -/
  | word (name : String)
  /-- A number without a sign. -/
  | number
  /-- A character or a string. -/
  | quoted
  /-- The double colon between the names of a path. -/
  | separator
  /-- Any other sign. -/
  | symbol (c : Char)
  /-- What stands between a pair of brackets. -/
  | group (content : List Lexeme)

/-- Characters that a name starts with; those beyond ASCII are all taken for letters. -/
def isNameStart (c : Char) : Bool :=
  ('a' ≤ c && c ≤ 'z') || ('A' ≤ c && c ≤ 'Z') || c = '_' || 0x80 ≤ c.toNat

/-- Characters that a name goes on with. -/
def isNamePart (c : Char) : Bool := isNameStart c || Text.isDigit c

/-- The bracket that closes an opening one. -/
def closing? : Char → Option Char
  | '(' => some ')'
  | '[' => some ']'
  | '\x7b' => some '\x7d'
  | _ => none

/-- The text after the closing quote of a string. -/
def afterString? : List Char → Option (List Char)
  | [] => none
  | '"' :: rest => some rest
  | '\\' :: _ :: rest => afterString? rest
  | _ :: rest => afterString? rest

/-- The text after a character in quotes, given what follows the opening quote. -/
def afterChar? : List Char → Option (List Char)
  | '\\' :: _ :: '\'' :: rest => some rest
  | '\\' :: _ => none
  | _ :: '\'' :: rest => some rest
  | _ => none

/-- The lexemes of a text up to its end or to a closing bracket, and the text from there on.  The
fuel bounds their number. -/
def lexemes? : Nat → List Char → Option (List Lexeme × List Char)
  | 0, _ => none
  | _ + 1, [] => some ([], [])
  | fuel + 1, c :: rest =>
    let andThen (lexeme : Lexeme) (rest : List Char) : Option (List Lexeme × List Char) :=
      (lexemes? fuel rest).map fun (more, rest) => (lexeme :: more, rest)
    if Text.isSpace c then lexemes? fuel rest
    else if c = 'r' ∧ rest.head? = some '#' ∧ (rest[1]?.map isNameStart).getD false then
      let name := (rest.drop 1).takeWhile isNamePart
      andThen (.word (String.ofList ('r' :: '#' :: name))) ((rest.drop 1).dropWhile isNamePart)
    else if isNameStart c then
      andThen (.word (String.ofList (c :: rest.takeWhile isNamePart))) (rest.dropWhile isNamePart)
    else if Text.isDigit c then
      andThen .number (rest.dropWhile fun c => isNamePart c || c = '.')
    else if c = '"' then (afterString? rest).bind (andThen .quoted)
    else if c = '\'' then
      match afterChar? rest with
      | some rest => andThen .quoted rest
      | none => andThen (.symbol c) rest
    else if c = ':' ∧ rest.head? = some ':' then andThen .separator rest.tail
    else if c = ')' ∨ c = ']' ∨ c = '\x7d' then some ([], c :: rest)
    else
      match closing? c with
      | none => andThen (.symbol c) rest
      | some close =>
        match lexemes? fuel rest with
        | some (content, d :: rest) =>
          if d = close then andThen (.group content) rest else none
        | _ => none

/-! ## Paths -/

/-- Names joined by double colons. -/
structure Path where
  /-- Whether a double colon stands in front. -/
  rooted : Bool := false
  names : List String
  deriving DecidableEq, Repr

namespace Path

/-- The last name of a path. -/
def last? (path : Path) : Option String := path.names.getLast?

/-- Whether the path is this name alone. -/
def isName (path : Path) (name : String) : Bool := !path.rooted && path.names = [name]

/-- The names of a path after its first one, and the lexemes after the path. -/
def more : List Lexeme → List String × List Lexeme
  | .separator :: .word name :: rest => ((more rest).1.cons name, (more rest).2)
  | rest => ([], rest)

/-- A path at the start of lexemes, and the lexemes after it. -/
def ofLexemes? : List Lexeme → Option (Path × List Lexeme)
  | .separator :: .word name :: rest =>
    some ({ rooted := true, names := name :: (more rest).1 }, (more rest).2)
  | .word name :: rest => some ({ names := name :: (more rest).1 }, (more rest).2)
  | _ => none

/-- Reads a path. -/
def parse? (text : String) : Option Path :=
  match lexemes? (text.length + 1) text.toList with
  | some (lexemes, []) =>
    match ofLexemes? lexemes with
    | some (path, []) => some path
    | _ => none
  | _ => none

end Path

/-! ## Attributes -/

/-- What follows the path of an attribute. -/
inductive AttributeForm where
  /-- Nothing. -/
  | bare
  /-- A list in brackets. -/
  | list (content : List Lexeme)
  /-- An equals sign and a value. -/
  | assigned

/-- An attribute. -/
structure Attribute where
  path : Path
  form : AttributeForm

/-- Reads an attribute. -/
def Attribute.parse? (text : String) : Option Attribute :=
  match lexemes? (text.length + 1) text.toList with
  | some (lexemes, []) =>
    match Path.ofLexemes? lexemes with
    | some (path, []) => some { path, form := .bare }
    | some (path, [.group content]) => some { path, form := .list content }
    | some (path, .symbol '=' :: _) => some { path, form := .assigned }
    | _ => none
  | _ => none

end Dataflow.Declaration
