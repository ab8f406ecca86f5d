import Dataflow.Actors.Catalogue
import Dataflow.Port.Store

/-!
# Commands

What can be asked of a session, a node with stores of ports, a registry of devices, tables of
capabilities and hosted actors, all by name.
-/

namespace Dataflow

/-- Commands about the ports of one actor. -/
inductive PortCommand where
  | add (direction : Direction) (port : String) (capacity : Option Capacity)
  | deliver (port : String) (token : Token)
  | write (port : String) (token : Token)
  | deliverAll (port : String) (values : List Value)
  | drain (port : String)
  | queued (direction : Direction) (port : String)
  | tokensAvailable (port : String) (count : Nat)
  | slotsAvailable (port : String) (count : Nat)
  | peek (port : String) (count : Nat)
  | commit (ports : List String)
  | cancel (ports : List String)
  | transmit (port : String) (target : ActorRef) (targetPort : String)
  /-- Keeps the detached ports under a name. -/
  | detach (keepAs : String)
  /-- Attaches ports that were kept under a name. -/
  | attachKept (name : String)
  | attach (ports : PortSet)
  | view
  /-- A command with a part that is not of its form. -/
  | undecodable

/-- Commands about the registry of devices. -/
inductive RegistryCommand where
  /-- Registers a script. -/
  | addScript (name : String)
  | add (name : String) (device : Device)
  | remove (name : String)
  | contains (name : String)
  | require (names : List String)
  | view
  /-- Feeds the script registered under a name. -/
  | script (name : String) (push : List Value) (writable : Option Bool)

/-- A handle in a command: by its alias, or spelled out. -/
inductive HandleName where
  | held (label : String)
  | form (handle : Handle)
  /-- Not of the form of a handle. -/
  | undecodable

/-- Commands about a table of capabilities. -/
inductive TableCommand where
  /-- Makes the table a new one. -/
  | bind (actor : ActorRef)
  /-- Holds the handle under an alias. -/
  | openCapability (name : String) (config : Value) (label : String)
  | handles
  | closeAll
  | canRead (handle : HandleName)
  | canWrite (handle : HandleName)
  | read (handle : HandleName)
  | write (handle : HandleName) (value : Value)
  | close (handle : HandleName)
  | name (handle : HandleName)

/-- What is answered to firing an actor. -/
inductive FireMode where
  /-- The whole report. -/
  | report
  /-- Whether anything fired. -/
  | fired
  /-- The whole report and every access to the ports; accesses listed here are refused. -/
  | watched (faults : List (String × Nat))

/-- How an actor is fired. -/
structure FireOptions where
  store : String
  mode : FireMode := .report

/-- Commands to a hosted actor. -/
inductive ActorCommand where
  | start (config : Value)
  | restore (snapshot : Snapshot)
  /-- Restores a snapshot that was saved under a name. -/
  | restoreSaved (name : String)
  | fire (options : FireOptions)
  /-- Saves the snapshot under a name. -/
  | capture (saveAs : Option String)
  | prepareMove
  | resume
  | finish
  | actions
  | setState (state : Value)
  /-- Sets a reading of a sensor. -/
  | setReading (value : Binary64)
  /-- Sets the previous reading of a sensor. -/
  | setLast (value : Option Binary64)
  | undecodable

/-- A command. -/
inductive Command where
  | ports (store : String) (actor : ActorRef) (command : PortCommand)
  | registry (command : RegistryCommand)
  | table (table : String) (command : TableCommand)
  | create (slot : String) (actor : ActorRef) (kind : Kind)
  | actor (slot : String) (command : ActorCommand)
  /-- A command that makes no sense. -/
  | unknown

end Dataflow
