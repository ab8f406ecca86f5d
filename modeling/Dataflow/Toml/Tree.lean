import Dataflow.KeyMap
import Dataflow.Number.Binary

/-!
# TOML documents as trees

A document is read line by line into a tree of tables.  A table may be written in several places,
under its own header, under longer headers and by dotted keys; what may still be added to a table
depends on how it came about, so each table keeps its `Origin`.
-/

namespace Dataflow.Toml

/-! ## Trees -/

/-- How a table came about. -/
inductive Origin where
  /-- Under a header of its own.  The whole document and each element of a list of tables count as
  such, too. -/
  | header
  /-- Implied by a longer header: a header of its own may still follow. -/
  | implied
  /-- Made by a dotted key: further dotted keys may add to it. -/
  | dotted
  /-- Written in braces: nothing may be added. -/
  | inline
  deriving DecidableEq, Repr

/-- What a key of a document stands for. -/
inductive Node where
  | str (s : String)
  | int (n : Int)
  | float (x : Binary64)
  | bool (b : Bool)
  /-- A date, a time of day, or both.  Nothing depends on which. -/
  | moment
  | arr (items : List Node)
  | table (origin : Origin) (members : List (String × Node))
  /-- Tables under headers in double brackets, in order. -/
  | tables (elements : List (List (String × Node)))

/-- The members of a table by name. -/
abbrev Table := Entries Node

/-- A dotted key: the names before the last dot, and the name after it. -/
structure Key where
  parents : List String
  name : String
  deriving DecidableEq, Repr

/-- All names of a key, in order. -/
def Key.names (key : Key) : List String := key.parents ++ [key.name]

/-! ## Adding to a tree -/

namespace Table

/-- Changes the table that a path leads to, given how that table came about.  The path goes on
through tables whose origin `passes` and through the last one of a list of tables; tables missing
on the way are `made`. -/
def change? (passes : Origin → Bool) (made : Origin) (change : Origin → Table → Option Table) :
    List String → Origin → Table → Option Table
  | [], origin, table => change origin table
  | name :: path, _, table =>
    match table.find? name with
    | none =>
      (change? passes made change path made []).map fun inner =>
        table.insert name (.table made inner)
    | some (.table origin inner) =>
      if passes origin then
        (change? passes made change path origin inner).map fun inner =>
          table.insert name (.table origin inner)
      else none
    | some (.tables elements) =>
      match elements.getLast? with
      | none => none
      | some last =>
        (change? passes made change path .header last).map fun last =>
          table.insert name (.tables (elements.dropLast ++ [last]))
    | some _ => none

/-- Adds a member, unless there is one of this name. -/
def add? (name : String) (node : Node) (table : Table) : Option Table :=
  match table.find? name with
  | none => some (table.insert name node)
  | some _ => none

/-- Adds what a dotted key stands for.  The path of the key leads through tables that no header
has defined yet, and ends at one that dotted keys have made. -/
def assign? (key : Key) (node : Node) (table : Table) : Option Table :=
  match key.parents with
  | [] => table.add? key.name node
  | path =>
    let passes (origin : Origin) : Bool := origin = .implied || origin = .dotted
    let change (origin : Origin) (inner : Table) : Option Table :=
      if origin = .dotted then inner.add? key.name node else none
    change? passes .dotted change path .header table

/-- Changes the table at the path of a header. -/
def atHeader? (path : List String) (change : Table → Option Table) (root : Table) :
    Option Table :=
  change? (fun origin => origin ≠ .inline) .implied (fun _ => change) path .header root

/-- Starts the table of a header in single brackets.  It must be new, or only implied so far. -/
def start? (key : Key) (root : Table) : Option Table :=
  let change (table : Table) : Option Table :=
    match table.find? key.name with
    | none => some (table.insert key.name (.table .header []))
    | some (.table .implied inner) => some (table.insert key.name (.table .header inner))
    | some _ => none
  root.atHeader? key.parents change

/-- Starts the next table of a header in double brackets. -/
def startElement? (key : Key) (root : Table) : Option Table :=
  let change (table : Table) : Option Table :=
    match table.find? key.name with
    | none => some (table.insert key.name (.tables [[]]))
    | some (.tables elements) => some (table.insert key.name (.tables (elements ++ [[]])))
    | some _ => none
  root.atHeader? key.parents change

/-- The table of keys and what they stand for, in braces or as the rest of a document. -/
def ofEntries? (entries : List (Key × Node)) : Option Table :=
  entries.foldlM (fun table entry => table.assign? entry.1 entry.2) []

end Table

/-! ## Documents -/

/-- A line of a document that says something. -/
inductive Line where
  /-- A header in single brackets. -/
  | header (key : Key)
  /-- A header in double brackets. -/
  | element (key : Key)
  /-- A key and what it stands for, in the table of the last header. -/
  | entry (key : Key) (node : Node)

namespace Table

/-- A document line by line, from what has been read so far and the path of the last header. -/
def extend? (root : Table) (current : List String) : List Line → Option Table
  | [] => some root
  | .header key :: rest => (root.start? key).bind fun root => extend? root key.names rest
  | .element key :: rest => (root.startElement? key).bind fun root => extend? root key.names rest
  | .entry key node :: rest =>
    (root.atHeader? current fun table => table.assign? key node).bind fun root =>
      extend? root current rest

/-- The document with these lines. -/
def ofLines? (lines : List Line) : Option Table := extend? [] [] lines

end Table

end Dataflow.Toml
