import Dataflow.Port.Demand
import Dataflow.Value.Decode
import Dataflow.Value.Document

/-!
# Snapshots

The managed state of one actor with the actor's type and identity, as it is handed over when the
actor moves.
-/

namespace Dataflow

/-- A snapshot of an actor. -/
structure Snapshot where
  /-- The type of the captured actor. -/
  actorType : String
  /-- The captured actor. -/
  actor : ActorRef
  /-- Its managed fields. -/
  managed : Value

namespace Snapshot

/-- The portable form. -/
def toValue (snapshot : Snapshot) : Value :=
  .object [("actor_type", .str snapshot.actorType), ("actor", .str snapshot.actor.id),
    ("managed", snapshot.managed)]

/-- Reads the portable form. -/
def ofValue? (value : Value) : Option Snapshot :=
  match Decoder.record ["actor_type", "actor", "managed"] value with
  | some [type, actor, managed] =>
    (Decoder.string type).bind fun actorType =>
      (Decoder.string actor).map fun id => { actorType, actor := ⟨id⟩, managed }
  | _ => none

/-- Reads the portable form from text; a field that occurs twice is refused. -/
def ofDocument? (document : Document) : Option Snapshot :=
  let build : Document → Document → Document → Option Snapshot
    | .str (some actorType), .str (some id), managed =>
      (managed.value? (Document.depthLimit - 1)).map fun managed =>
        { actorType, actor := ⟨id⟩, managed }
    | _, _, _ => none
  match document with
  | .obj members => do
    let type ← Document.onlyMember? "actor_type" members
    let actor ← Document.onlyMember? "actor" members
    let managed ← Document.onlyMember? "managed" members
    build type actor managed
  | .arr [type, actor, managed] => build type actor managed
  | _ => none

/-- Reads the portable form from the text of a document. -/
def parse? (text : String) : Option Snapshot := (Document.parse? text).bind ofDocument?

end Snapshot

end Dataflow
