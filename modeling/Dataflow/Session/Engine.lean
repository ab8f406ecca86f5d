import Dataflow.Log.Journal
import Dataflow.Session.Step
import Dataflow.Settings.Load

/-!
# Engines

An engine finds its settings, works off the commands of a session one after another, and keeps a
journal of the events on the way.
-/

namespace Dataflow

/-- The answers to commands in order, each with the entries that it adds to the log. -/
def Session.run (session : Session) : List Command → List (Answer × List LogEntry)
  | [] => []
  | command :: rest =>
    let step := session.step command
    (step.value.2, step.entries) :: run step.value.1 rest

/-- An engine, by what it finds where its settings should be. -/
structure Engine where
  file : SettingsFile

namespace Engine

/-- The settings of the engine. -/
def settings (engine : Engine) : Settings := engine.file.load.value

/-- The events of loading the settings. -/
def loading (engine : Engine) : List Event :=
  engine.file.load.entries.filterMap LogEntry.event?

/-- Works off commands in a new session. -/
def run (engine : Engine) (commands : List Command) : List (Answer × List LogEntry) :=
  ({ settings := engine.settings } : Session).run commands

/-- All events of working off commands in a new session. -/
def events (engine : Engine) (commands : List Command) : List Event :=
  LogEntry.journal engine.loading ((engine.run commands).flatMap Prod.snd)

end Engine

end Dataflow
