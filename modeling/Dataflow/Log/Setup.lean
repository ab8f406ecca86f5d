import Dataflow.Log.Filter
import Dataflow.Log.Place
import Dataflow.Settings.Basic

/-!
# Setting up the log

A process sets up its log once: it makes the folder of the log file, opens the file, reads the
filter, and from then on the events that the filter lets through are written to the file.
-/

namespace Dataflow

/-! ## Surroundings -/

/-- What a process finds around it when it sets up its log. -/
structure Surroundings where
  /-- The path of the root of the tree of files. -/
  root : String
  /-- Whether the process has a home directory. -/
  home : Bool := true
  /-- The folder for data that belongs to the user. -/
  dataFolder : List String
  /-- The filter that overrides the one of the settings. -/
  filter : Option String := none

/-- The log of a process. -/
structure LogState where
  /-- The files, that of the log among them. -/
  tree : FileTree
  /-- The filter of the log, once it is set up. -/
  filter : Option Filter := none

/-! ## Errors -/

/-- Why the log cannot be set up. -/
inductive LogError where
  /-- The usual folder is below the home directory, and there is none. -/
  | homeless
  /-- The folder that the settings name cannot be made. -/
  | folder (path : String)
  /-- The usual folder cannot be made. -/
  | usualFolder
  /-- The log file cannot be opened. -/
  | file
  /-- The filter of the settings is wrong. -/
  | filter (text : String)
  /-- The process has set up its log before. -/
  | again
  deriving DecidableEq, Repr

/-- The text of an error. -/
def LogError.message : LogError → String
  | homeless => "$HOME must be set"
  | folder path => s!"could not create log directory {path}"
  | usualFolder => "could not create log directory"
  | file => "initializing rolling file appender failed"
  | filter text => s!"invalid log level '{text}'"
  | again => "a global subscriber is already installed"

/-! ## Setting up -/

namespace LogState

/-- Makes the folder of the log file and tells where it is. -/
def makeFolder (surroundings : Surroundings) (settings : Settings) (tree : FileTree) :
    Except LogError (FileTree × Place) :=
  match settings.logDirectory with
  | some path =>
    match tree.makeFolders? [] (FileTree.names surroundings.root path) with
    | none => .error (.folder path)
    | some made => .ok made
  | none =>
    if !surroundings.home then .error .homeless
    else
      match tree.makeFolders? [] (surroundings.dataFolder ++ ["ember", "logs"]) with
      | none => .error .usualFolder
      | some made => .ok made

/-- Opens the log file.  A path from the root leads away from the folder. -/
def openFile (surroundings : Surroundings) (settings : Settings) (made : FileTree × Place) :
    Except LogError FileTree :=
  let (tree, folder) := made
  let root := surroundings.root.toList
  let path := settings.logFile.toList
  let start := if root.isPrefixOf path || path.head? = some '/' then [] else folder
  match tree.openFile? start (FileTree.names surroundings.root settings.logFile) with
  | none => .error .file
  | some tree => .ok tree

/-- Sets up the log.  The file is there even if the filter turns out to be wrong. -/
def setUp (surroundings : Surroundings) (settings : Settings) (state : LogState) :
    Except LogError LogState := do
  let made ← makeFolder surroundings settings state.tree
  let tree ← openFile surroundings settings made
  match Filter.choose? surroundings.filter settings.logLevel with
  | none => .error (.filter settings.logLevel)
  | some filter =>
    if state.filter.isSome then .error .again
    else .ok { tree, filter := some filter }

end LogState

end Dataflow
