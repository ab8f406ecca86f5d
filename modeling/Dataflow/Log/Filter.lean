import Dataflow.Log.Event
import Dataflow.Text.Split

/-!
# Filters of events

A filter is a list of directives, each of which sets how much is let through from the targets that
start with its own.  For an event the most specific directive decides, which is the one with the
longest target, and of equal ones the last.
-/

namespace Dataflow

/-! ## Directives -/

/-- What one part of a filter says. -/
structure Directive where
  /-- The start of the targets it applies to; all of them if there is none. -/
  target : Option String
  /-- The least important level that is let through; nothing is if there is none. -/
  level : Option Level
  deriving DecidableEq, Repr

namespace Directive

/-- The level of this name, in letters of either case, or of this number. -/
def level? (name : List Char) : Option (Option Level) :=
  match String.ofList (name.map Char.toLower) with
  | "off" | "0" => some none
  | "error" | "1" => some (some .error)
  | "warn" | "2" => some (some .warn)
  | "info" | "3" => some (some .info)
  | "debug" | "4" => some (some .debug)
  | "trace" | "5" => some (some .trace)
  | _ => none

/-- Reads `level` or `target=level`.  A target alone, or with nothing after the equals sign, lets
everything through. -/
def parse? (text : List Char) : Option Directive :=
  match Text.split '=' text with
  | [word] =>
    match level? word with
    | some level => some { target := none, level }
    | none => some { target := some (String.ofList word), level := some .trace }
  | [[], _] => none
  | [target, []] => some { target := some (String.ofList target), level := some .trace }
  | [target, name] =>
    (level? name).map fun level => { target := some (String.ofList target), level }
  | _ => none

/-- Whether the directive applies to events of this target. -/
def applies (directive : Directive) (target : String) : Bool :=
  match directive.target with
  | none => true
  | some start => start.toList.isPrefixOf target.toList

/-- How specific a directive is. -/
def specificity (directive : Directive) : Nat :=
  match directive.target with
  | none => 0
  | some start => start.length + 1

/-- Whether the directive lets events of this level through. -/
def allows (directive : Directive) (level : Level) : Bool :=
  match directive.level with
  | none => false
  | some least => level.rank ≤ least.rank

end Directive

/-! ## Filters -/

/-- Directives in the order in which they are written. -/
abbrev Filter := List Directive

namespace Filter

/-- Reads directives separated by commas.  One that is wrong makes the whole filter wrong. -/
def parse? (text : String) : Option Filter :=
  ((Text.split ',' text.toList).filter fun part => !part.isEmpty).mapM Directive.parse?

/-- The directive that decides about events of this target. -/
def deciding? (filter : Filter) (target : String) : Option Directive :=
  (filter.filter fun directive => directive.applies target).foldl
    (fun best directive =>
      match best with
      | none => some directive
      | some b => if b.specificity ≤ directive.specificity then some directive else some b)
    none

/-- Whether an event is let through. -/
def allows (filter : Filter) (event : Event) : Bool :=
  ((filter.deciding? event.source.target).map fun directive =>
    directive.allows event.level).getD false

/-- The filter that overrides the usual one if it can be read, else the usual one. -/
def choose? (override : Option String) (usual : String) : Option Filter :=
  match override.bind parse? with
  | some filter => some filter
  | none => parse? usual

end Filter

end Dataflow
