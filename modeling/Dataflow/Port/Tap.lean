import Dataflow.Port.Store

/-!
# Watching and disturbing access to ports

A tap stands between the engine and a store.  It keeps every operation the engine asks for, in
order, and can be told to refuse some of them: a refused operation does not reach the store.
-/

namespace Dataflow

/-- An operation of the engine on ports. -/
inductive PortMethod where
  | tokensAvailable
  | slotsAvailable
  | peek
  | commit
  | cancel
  | write
  deriving DecidableEq, Repr

/-- The name of an operation. -/
def PortMethod.name : PortMethod → String
  | tokensAvailable => "tokens_available"
  | slotsAvailable => "slots_available"
  | peek => "peek"
  | commit => "peek_commit"
  | cancel => "peek_cancel"
  | write => "write"

/-- What an operation is asked for. -/
inductive PortRequest where
  /-- So many tokens or places of a port. -/
  | count (port : String) (count : Nat)
  /-- Several in-ports. -/
  | ports (ports : List String)
  /-- A token for a port. -/
  | token (port : String) (token : Token)

/-- An operation that was asked for. -/
structure PortCall where
  method : PortMethod
  request : PortRequest

namespace PortCall

/-- The call as a list. -/
def toValue (call : PortCall) : Value :=
  .arr <| .str call.method.name ::
    match call.request with
    | .count port count => [.str port, .nat count]
    | .ports ports => [.strings ports]
    | .token port token => [.str port, token.toValue]

end PortCall

/-- A store behind a tap. -/
structure PortTap where
  store : PortStore
  /-- The operations to refuse: by name, and by how many calls of that name came before. -/
  faults : List (String × Nat) := []
  /-- All calls so far. -/
  calls : List PortCall := []

namespace PortTap

/-- Keeps a call, and passes it on unless it is to be refused. -/
def pass {α : Type} (tap : PortTap) (method : PortMethod) (request : PortRequest)
    (work : PortStore → PortStore × Except PortError α) : PortTap × Except PortError α :=
  let earlier := tap.calls.countP fun call => call.method == method
  let tap := { tap with calls := tap.calls ++ [⟨method, request⟩] }
  if (method.name, earlier) ∈ tap.faults then
    (tap, .error (.unknownActor ⟨"fault:" ++ method.name⟩))
  else
    let (store, answer) := work tap.store
    ({ tap with store }, answer)

instance : PortAccess PortTap where
  tokensAvailable tap actor port count :=
    tap.pass .tokensAvailable (.count port count) fun store =>
      PortAccess.tokensAvailable store actor port count
  slotsAvailable tap actor port count :=
    tap.pass .slotsAvailable (.count port count) fun store =>
      PortAccess.slotsAvailable store actor port count
  peek tap actor port count :=
    tap.pass .peek (.count port count) fun store => PortAccess.peek store actor port count
  commit tap actor ports :=
    tap.pass .commit (.ports ports) fun store => PortAccess.commit store actor ports
  cancel tap actor ports :=
    tap.pass .cancel (.ports ports) fun store => PortAccess.cancel store actor ports
  write tap actor port token :=
    tap.pass .write (.token port token) fun store => PortAccess.write store actor port token

end PortTap

end Dataflow
