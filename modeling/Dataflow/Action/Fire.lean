import Dataflow.Action.Attempt

/-!
# Firing an actor

One call fires an actor until a full scan of its actions fires nothing.  Every scan starts at the
top of the priority list and ends with the first action that fires.  Nothing bounds the number of
firings, so a call is given a limit of scans; its answer is `none` if the limit was too low.
-/

namespace Dataflow

namespace Behaviour

variable {S P : Type} [PortAccess P]

/-- Tries actions in turn, the first of which has the given priority, until one fires. -/
def scan (behaviour : Behaviour S) :
    Nat → List (Action S) → S → P → Logged (Outcome S P (Option Firing))
  | _, [], state, ports => pure ⟨state, ports, .ok none⟩
  | priority, action :: rest, state, ports => do
    match ← action.tryFire behaviour priority state ports with
    | ⟨state, ports, .error e⟩ => pure ⟨state, ports, .error e⟩
    | ⟨state, ports, .ok (.fired firing)⟩ => pure ⟨state, ports, .ok (some firing)⟩
    | ⟨state, ports, .ok (.skipped reason)⟩ => do
      Logged.report .trace .selection "Not eligible"
        [("actor", .str behaviour.actor.id), ("action", .str action.name),
          ("priority", .nat priority), ("reason", .str reason.text)]
      scan behaviour (priority + 1) rest state ports

/-- Fires the first eligible action, if there is one. -/
def select (behaviour : Behaviour S) (state : S) (ports : P) :
    Logged (Outcome S P (Option Firing)) :=
  behaviour.scan 0 behaviour.actions state ports

/-- Selects again and again, adding to the report, until nothing fires or an attempt fails. -/
def fireFrom (behaviour : Behaviour S) :
    Nat → FireReport → S → P → Logged (Option (Outcome S P FireReport))
  | 0, _, _, _ => pure none
  | limit + 1, report, state, ports => do
    match ← behaviour.select state ports with
    | ⟨state, ports, .error e⟩ => pure (some ⟨state, ports, .error e⟩)
    | ⟨state, ports, .ok none⟩ => do
      Logged.report .debug .active "Reached fixed point"
        [("firings", .nat report.firings.length)]
      pure (some ⟨state, ports, .ok report⟩)
    | ⟨state, ports, .ok (some firing)⟩ =>
      fireFrom behaviour limit (report.record firing) state ports

/-- Fires the actor until nothing is eligible any more, within a limit of scans. -/
def fire (behaviour : Behaviour S) (limit : Nat) (state : S) (ports : P) :
    Logged (Option (Outcome S P FireReport)) :=
  behaviour.fireFrom limit {} state ports

end Behaviour

end Dataflow
