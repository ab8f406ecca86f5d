import Dataflow.Log.Event
import Dataflow.Settings.Section

/-!
# Loading settings

A process loads its settings from a file.  Where there is no file, or one that cannot be read as
settings, it uses the defaults and reports why: no setting is taken from a file that is wrong
anywhere.
-/

namespace Dataflow

/-! ## One file -/

/-- Why a file gives no settings. -/
inductive SettingsError where
  /-- There is no such file, or it is not text. -/
  | unreadable (path : String)
  /-- Its text writes no settings. -/
  | malformed (path : String)
  deriving DecidableEq, Repr

/-- The text of an error. -/
def SettingsError.message : SettingsError → String
  | unreadable path => s!"failed to read configuration file {path}"
  | malformed path => s!"failed to parse configuration file {path}"

/-- The settings of the file at a path, given its text if it can be read. -/
def Settings.ofFile (path : String) (content : Option String) :
    Logged (Except SettingsError Settings) := do
  Logged.report .info .settings s!"Loading configuration from: {path}"
  match content with
  | none => pure (.error (.unreadable path))
  | some text =>
    match Settings.parse? text with
    | none => pure (.error (.malformed path))
    | some settings => pure (.ok settings)

/-! ## The file of a process -/

/-- What a process finds where its settings should be. -/
inductive SettingsFile where
  /-- The process has no home directory, so it does not look. -/
  | homeless
  /-- There is no file. -/
  | missing
  /-- There is a file, with its text if it can be read. -/
  | found (path : String) (content : Option String)

/-- The settings of a process. -/
def SettingsFile.load : SettingsFile → Logged Settings
  | homeless => do
    Logged.report .error .settings "Failed to initialize XDG directories: $HOME must be set"
    pure {}
  | missing => do
    Logged.report .info .settings "No configuration file found, using defaults"
    pure {}
  | found path content => do
    match ← Settings.ofFile path content with
    | .ok settings => pure settings
    | .error e => do
      Logged.report .error .settings s!"{e.message}, using defaults"
      pure {}

end Dataflow
