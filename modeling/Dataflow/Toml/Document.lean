import Dataflow.Toml.Scalar

/-!
# Reading TOML text

Values, then lines, then the document that the lines make up.  Lists and tables in braces nest to a
limited depth, and keys have a limited number of names.
-/

namespace Dataflow.Toml

/-- How deep lists and tables in braces may be nested. -/
def depthLimit : Nat := 79

/-- How many names a key may have. -/
def nameLimit : Nat := 79

/-- A key. -/
def key? (text : List Char) : Option (Key × List Char) :=
  (names? nameLimit text).bind fun (names, rest) =>
    names.getLast?.map fun name => (⟨names.dropLast, name⟩, rest)

/-! ## Values -/

mutual

/-- A value in which lists and tables nest at most `depth` deep.  The fuel bounds the number of
values and separators. -/
def value? : Nat → Nat → List Char → Option (Node × List Char)
  | 0, _, _ => none
  | fuel + 1, depth, text =>
    match text, depth with
    | '[' :: _, 0 => none
    | '[' :: rest, depth + 1 =>
      (items? fuel depth rest).map fun (items, rest) => (.arr items, rest)
    | '\x7b' :: _, 0 => none
    | '\x7b' :: rest, depth + 1 =>
      match skipBlank rest with
      | '\x7d' :: rest => some (.table .inline [], rest)
      | rest =>
        (members? fuel depth rest).bind fun (entries, rest) =>
          (Table.ofEntries? entries).map fun table => (.table .inline table, rest)
    | text, _ => scalar? text

/-- The items of a list up to its closing bracket, in which lines may end anywhere and a comma may
follow the last item. -/
def items? : Nat → Nat → List Char → Option (List Node × List Char)
  | 0, _, _ => none
  | fuel + 1, depth, text =>
    match skipComments false text with
    | ']' :: rest => some ([], rest)
    | text =>
      match value? fuel depth text with
      | none => none
      | some (item, rest) =>
        match skipComments false rest with
        | ',' :: rest => (items? fuel depth rest).map fun (items, rest) => (item :: items, rest)
        | ']' :: rest => some ([item], rest)
        | _ => none

/-- The members of a table up to its closing brace, all on one line. -/
def members? : Nat → Nat → List Char → Option (List (Key × Node) × List Char)
  | 0, _, _ => none
  | fuel + 1, depth, text =>
    match key? text with
    | some (key, '=' :: rest) =>
      match value? fuel depth (skipBlank rest) with
      | none => none
      | some (node, rest) =>
        match skipBlank rest with
        | ',' :: rest =>
          (members? fuel depth rest).map fun (members, rest) => ((key, node) :: members, rest)
        | '\x7d' :: rest => some ([(key, node)], rest)
        | _ => none
    | _ => none

end

/-! ## Lines -/

/-- One line that says something, and the text after it. -/
def line? (text : List Char) : Option (Line × List Char) :=
  let found : Option (Line × List Char) :=
    match text with
    | '[' :: '[' :: rest =>
      match key? rest with
      | some (key, ']' :: ']' :: rest) => some (.element key, rest)
      | _ => none
    | '[' :: rest =>
      match key? rest with
      | some (key, ']' :: rest) => some (.header key, rest)
      | _ => none
    | text =>
      match key? text with
      | some (key, '=' :: rest) =>
        let rest := skipBlank rest
        (value? (2 * rest.length + 2) depthLimit rest).map fun (node, rest) =>
          (.entry key node, rest)
      | _ => none
  found.bind fun (line, rest) => (lineEnd? rest).map (line, ·)

/-- All lines.  The fuel bounds their number. -/
def lines? : Nat → List Char → Option (List Line)
  | 0, _ => none
  | fuel + 1, text =>
    match skipComments false text with
    | [] => some []
    | text => (line? text).bind fun (line, rest) => (lines? fuel rest).map (line :: ·)

/-! ## Documents -/

/-- The document that makes up the whole text, a byte order mark aside. -/
def parse? (text : String) : Option Table :=
  let text := match text.toList with
    | '\ufeff' :: rest => rest
    | text => text
  (lines? (text.length + 1) text).bind Table.ofLines?

end Dataflow.Toml
