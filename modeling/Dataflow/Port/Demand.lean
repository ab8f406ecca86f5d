/-!
# Ports and what actions ask of them

An action declares ports with token counts.  A port may be declared more than once; what has to be
there is the sum of its counts, so availability is asked for `totals`, in the order in which the
ports were first declared.
-/

namespace Dataflow

/-- Which way tokens flow, as its actor sees it. -/
inductive Direction where
  | input
  | output
  deriving DecidableEq, Repr

/-- The name of a direction. -/
def Direction.name : Direction → String
  | input => "in"
  | output => "out"

/-- The identity of an actor, by which its ports are found. -/
structure ActorRef where
  id : String
  deriving DecidableEq, Repr

/-- A port with a number of tokens. -/
structure PortCount where
  port : String
  count : Nat
  deriving DecidableEq, Repr

namespace PortCount

/-- Adds one declaration to the totals: to the total of its port, or at the end as a new one. -/
def addTo (declared : PortCount) : List PortCount → List PortCount
  | [] => [declared]
  | total :: rest =>
    if total.port = declared.port then
      { total with count := total.count + declared.count } :: rest
    else total :: addTo declared rest

/-- The sum of the counts of each port, in the order in which the ports are first declared. -/
def totals (declared : List PortCount) : List PortCount :=
  declared.foldl (fun sums entry => entry.addTo sums) []

/-- The number of tokens of all declarations together. -/
def size : List PortCount → Nat
  | [] => 0
  | entry :: rest => entry.count + size rest

/-- The distinct ports, in the order in which they are first declared. -/
def ports (declared : List PortCount) : List String := (totals declared).map PortCount.port

end PortCount

end Dataflow
