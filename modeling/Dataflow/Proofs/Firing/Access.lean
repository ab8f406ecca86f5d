import Dataflow.Proofs.Firing.Simulation

/-!
# Properties of the ports that firing cannot break

A call reaches the ports through six operations only.  A property that each of these keeps is kept
by a call of any actor, whatever its guards and bodies do and however the call ends; in particular
it need not start without a pending peek.  The property is read as a correspondence of the ports
with themselves, so that this is a case of `Behaviour.fire_alike`.

* `PortAccess.Keeps` — the operations for an actor keep a property.
* `Behaviour.fire_safe` — then a call keeps it.
-/

namespace Dataflow

/-- The operations for an actor keep a property of the ports, also when they fail. -/
structure PortAccess.Keeps {P : Type} [PortAccess P] (actor : ActorRef) (safe : P → Prop) :
    Prop where
  tokensAvailable : ∀ {p}, safe p → ∀ port count,
    safe (PortAccess.tokensAvailable p actor port count).1
  slotsAvailable : ∀ {p}, safe p → ∀ port count,
    safe (PortAccess.slotsAvailable p actor port count).1
  peek : ∀ {p}, safe p → ∀ port count, safe (PortAccess.peek p actor port count).1
  commit : ∀ {p}, safe p → ∀ names, safe (PortAccess.commit p actor names).1
  cancel : ∀ {p}, safe p → ∀ names, safe (PortAccess.cancel p actor names).1
  write : ∀ {p}, safe p → ∀ port token, safe (PortAccess.write p actor port token).1

variable {P S : Type} [PortAccess P] {actor : ActorRef} {safe : P → Prop}
  {behaviour : Behaviour S}

theorem PortAccess.Keeps.alike (keeps : PortAccess.Keeps actor safe) :
    PortAccess.Alike actor fun p q => p = q ∧ safe p where
  tokensAvailable := by
    rintro p _ ⟨rfl, h⟩ port count
    exact ⟨⟨rfl, keeps.tokensAvailable h port count⟩, rfl⟩
  slotsAvailable := by
    rintro p _ ⟨rfl, h⟩ port count
    exact ⟨⟨rfl, keeps.slotsAvailable h port count⟩, rfl⟩
  peek := by
    rintro p _ ⟨rfl, h⟩ port count
    exact ⟨⟨rfl, keeps.peek h port count⟩, rfl⟩
  commit := by
    rintro p _ ⟨rfl, h⟩ names
    exact ⟨⟨rfl, keeps.commit h names⟩, rfl⟩
  cancel := by
    rintro p _ ⟨rfl, h⟩ names
    exact ⟨⟨rfl, keeps.cancel h names⟩, rfl⟩
  write := by
    rintro p _ ⟨rfl, h⟩ port token
    exact ⟨⟨rfl, keeps.write h port token⟩, rfl⟩

/-- No actor tells a state from itself. -/
theorem Behaviour.respects_eq (behaviour : Behaviour S) :
    behaviour.Respects fun s t => s = t where
  actions := by
    intro action _
    constructor
    · rintro s _ rfl
      rfl
    · rintro s _ rfl values
      rfl
    · rintro s _ rfl values
      exact ⟨rfl, rfl⟩
  onException := by
    rintro s _ rfl name reason
    exact ⟨rfl, rfl⟩

/-- A call keeps what the operations on its ports keep. -/
theorem Behaviour.fire_safe (keeps : PortAccess.Keeps behaviour.actor safe) {p final : P}
    (h : safe p) {limit : Nat} {state last : S} {result : Except FiringError FireReport}
    (ran : (behaviour.fire limit state p).value = some ⟨last, final, result⟩) : safe final := by
  have both := fire_alike keeps.alike behaviour.respects_eq limit (rfl : state = state) ⟨rfl, h⟩
  rw [ran] at both
  cases both with
  | finished alike => exact alike.ports.2

end Dataflow
