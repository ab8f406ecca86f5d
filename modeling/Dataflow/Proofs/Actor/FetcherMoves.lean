import Dataflow.Proofs.Actor.Fetcher

/-!
# A fetcher on the move

A fetcher is told that it will move, captured, detached from its ports and ended; a new fetcher is
restored over a new store, on the same script.  The portable form does not tell a buffered null from
an empty buffer, so what arrives is `Fetcher.carried`.

* `Fetcher.relocate_travelled` — a move goes through all its stations, which `Fetcher.Travelled`
  lists.
* `Fetcher.relocate_arrives` — a move succeeds and keeps the buffered response, unless that is null.
* `Fetcher.small_of_relocate` — a move fails if the count of requests has outgrown its type.
-/

namespace Dataflow.Actors.Fetcher

/-! ## Moves -/

/-- Moves a fetcher and its ports.  What travels is the state before it ended. -/
def relocate (settings : Settings) (site : Site DeviceWorld Fetcher) :
    Option (Site DeviceWorld Fetcher) :=
  match (type.prepareMove settings site.self).value with
  | (_, .error _) => none
  | (leaving, .ok ()) =>
    match (type.finish settings leaving).value with
    | (_, .error _) => none
    | (ended, .ok ()) =>
      Site.move type ⟨settings, ended.context.registry, ended.context.world⟩ ⟨leaving, site.store⟩

/-- What a buffered response is after a move. -/
def carried : Option Value → Option Value
  | some .null => none
  | response => response

theorem carried_eq_self {response : Option Value} (h : response ≠ some .null) :
    carried response = response := by
  unfold carried
  split
  · exact absurd rfl h
  · rfl

theorem of_carried {response : Option Value} {value : Value}
    (h : carried response = some value) : response = some value := by
  unfold carried at h
  split at h
  · cases h
  · exact h

theorem lawful : managed.fields.Lawful := by
  refine ⟨fun _ _ => rfl, ⟨fun _ _ => rfl, fun _ _ => rfl, trivial⟩, by decide, ?_⟩
  exact ⟨fun _ _ => rfl, ⟨fun _ _ => rfl, trivial⟩, by decide,
    ManagedFields.lawful_single fun _ _ => rfl⟩

/-- A buffered null is captured like an empty buffer. -/
theorem capture_carried (model : Fetcher) :
    managed.fields.capture model =
      managed.fields.capture { model with response := carried model.response } := by
  by_cases null : model.response = some .null
  · obtain ⟨timeoutMs, requests, response, handle⟩ := model
    cases null
    rfl
  · rw [carried_eq_self null]

theorem keeps_carried {model : Fetcher} (timeout : model.timeoutMs < 2 ^ 64)
    (requests : model.requests < 2 ^ 64)
    (response : ∀ value, model.response = some value → value.Valid) :
    managed.fields.Keeps { model with response := carried model.response } := by
  refine ⟨⟨_, Codec.keepsAs_unsigned timeout⟩, ⟨_, Codec.keepsAs_unsigned requests⟩,
    Codec.keeps_option fun value present => ?_, trivial⟩
  by_cases null : model.response = some .null
  · rw [null] at present
    cases present
  · have buffered : model.response = some value := (carried_eq_self null).symm.trans present
    exact ⟨value, Codec.keepsAs_value (response value buffered), fun same =>
      null (same ▸ buffered)⟩

/-- A fetcher whose count of requests has outgrown its type cannot be captured. -/
theorem capture_overflown {model : Fetcher} (overflown : ¬model.requests < 2 ^ 64) :
    ∃ e, managed.fields.capture model = .error e := by
  have range : ¬(Value.leastInt ≤ (model.requests : Int) ∧
      (model.requests : Int) ≤ Value.greatestInt) := by
    rw [Value.leastInt, Value.greatestInt]
    omega
  have refused : encodeField "requests" (.integer model.requests) =
      .error (.notRepresentable "requests" .integerRange) := by
    rw [encodeField, Datum.encode]
    simp only [Datum.firstNonFinite?, Datum.toValue, if_neg range]
    rfl
  exact ManagedFields.exists_capture_error ⟨_, ManagedFields.capture_refused refused⟩

variable {place : Nat} {actor : ActorRef} {self : Instance DeviceWorld Fetcher}
  {site : Site DeviceWorld Fetcher}

/-- A fetcher arrives with what it held, unless a null was buffered. -/
structure Arrives (place : Nat) (actor : ActorRef) (left arrived : Site DeviceWorld Fetcher) :
    Prop extends Coherent place actor arrived.self where
  ports : PortStore.SamePorts actor left.store arrived.store
  requests : arrived.self.model.requests = left.self.model.requests
  carriedResponse : arrived.self.model.response = carried left.self.model.response
  sameUnread : arrived.self.context.unread place = left.self.context.unread place

/-- A new fetcher is created where the script is registered. -/
theorem value_create {registry : Registry DeviceWorld} {world : DeviceWorld}
    (registered : registry.factories.get? capability = some (Device.script place).factory) :
    (type.create actor registry world).value =
      .ok ⟨managed.default, ⟨{ actor }, registry, world⟩⟩ := by
  have required : registry.requireAll [capability] = .ok () := by
    simp [Registry.requireAll, Registry.contains, KeyMap.contains, registered]
  show (ActorType.create type actor registry world).value = _
  rw [ActorType.create]
  simp only [type, required]
  rfl

/-- A new fetcher that is restored opens its capability. -/
theorem arrive_resumed {settings : Settings} {registry : Registry DeviceWorld}
    {world : DeviceWorld} {state : Value} {model : Fetcher} (store : PortStore)
    (ran : (managed.fields.setState settings.rejectUnknownFields managed.name managed.default
      state).value = (model, .ok ()))
    (coherent : Coherent place actor ⟨model, ⟨{ actor }, registry, world⟩⟩) :
    ∃ resumed, Site.arrive type ⟨settings, registry, world⟩ actor
        ⟨managed.name, actor, state⟩ store = some ⟨resumed, store⟩ ∧
      (type.resume ⟨model, ⟨{ actor }, registry, world⟩⟩).value = (resumed, .ok ()) ∧
      Rests place actor ⟨model, ⟨{ actor }, registry, world⟩⟩ resumed := by
  have restoring : (type.restore settings ⟨managed.default, ⟨{ actor }, registry, world⟩⟩
      ⟨managed.name, actor, state⟩).value =
        (type.resume ⟨model, ⟨{ actor }, registry, world⟩⟩).value :=
    ActorType.value_restore rfl ran
  obtain ⟨resumed, resuming, rests⟩ := resume_rests coherent
  refine ⟨resumed, ?_, resuming, rests⟩
  simp only [Site.arrive, value_create coherent.registered, restoring, resuming]

/-- A fetcher leaves with a state from which another one is restored. -/
theorem capture_restorable (h : Coherent place actor self)
    (small : self.model.requests < 2 ^ 64) :
    ∃ state, type.capture self = .ok ⟨managed.name, self.actor, state⟩ ∧ ∀ reject, ∃ model,
      (managed.fields.setState reject managed.name managed.default state).value = (model, .ok ()) ∧
      model.timeoutMs = self.model.timeoutMs ∧ model.requests = self.model.requests ∧
      model.response = carried self.model.response := by
  obtain ⟨state, captured, restored⟩ := ManagedFields.setState_state lawful
    (keeps_carried h.timeout small h.response)
  refine ⟨state, ?_, fun reject => ?_⟩
  · rw [ManagedFields.state, ← capture_carried] at captured
    show ((managed.fields.capture self.model).map Value.object).map _ = _
    rw [captured]
    rfl
  · obtain ⟨model, ran, timeout, requests, response, -⟩ :=
      restored reject managed.name managed.default
    exact ⟨model, ran, timeout.symm, requests.symm, response.symm⟩

/-- The stations of a move: the fetcher is prepared and ended, and a new one resumes with what was
captured of it in between. -/
inductive Travelled (place : Nat) (actor : ActorRef) (settings : Settings)
    (site : Site DeviceWorld Fetcher) : Site DeviceWorld Fetcher → Prop
  | intro {leaving ended resumed : Instance DeviceWorld Fetcher} {model : Fetcher}
      {store : PortStore} :
      (type.prepareMove settings site.self).value = (leaving, .ok ()) →
      Rests place actor site.self leaving →
      (type.finish settings leaving).value = (ended, .ok ()) →
      Rests place actor leaving ended →
      model.timeoutMs = leaving.model.timeoutMs → model.requests = leaving.model.requests →
      model.response = carried leaving.model.response →
      Coherent place actor ⟨model, ⟨{ actor }, ended.context.registry, ended.context.world⟩⟩ →
      (type.resume ⟨model, ⟨{ actor }, ended.context.registry, ended.context.world⟩⟩).value =
        (resumed, .ok ()) →
      Rests place actor ⟨model, ⟨{ actor }, ended.context.registry, ended.context.world⟩⟩
        resumed →
      PortStore.SamePorts actor site.store store →
      Travelled place actor settings site ⟨resumed, store⟩

/-- A move succeeds as long as the count of requests has not outgrown its type. -/
theorem relocate_travelled (h : Coherent place actor site.self)
    (travels : site.store.Travels actor) (small : site.self.model.requests < 2 ^ 64)
    (settings : Settings) :
    ∃ arrived, relocate settings site = some arrived ∧
      Travelled place actor settings site arrived := by
  obtain ⟨leaving, prepared, left⟩ := prepareMove_rests h settings
  obtain ⟨ended, finished, rests⟩ := finish_rests left.toCoherent settings
  have small' : leaving.model.requests < 2 ^ 64 := left.requests ▸ small
  obtain ⟨state, captured, restored⟩ := capture_restorable left.toCoherent small'
  obtain ⟨model, ran, timeout, requests, response⟩ := restored settings.rejectUnknownFields
  obtain ⟨store, unpacked, ports⟩ := travels.unpack
  have coherent : Coherent place actor
      ⟨model, ⟨{ actor }, ended.context.registry, ended.context.world⟩⟩ :=
    { identity := rfl
      registered := rests.registered
      onScript := ⟨rests.onScript.placed, fun entry member => by cases member⟩
      timeout := timeout ▸ left.timeout
      response := fun value present => left.response value (of_carried (response ▸ present))
      unread := rests.unread }
  obtain ⟨resumed, arrived, resuming, resumes⟩ := arrive_resumed store ran coherent
  refine ⟨⟨resumed, store⟩, ?_, .intro prepared left finished rests timeout requests response
    coherent resuming resumes ports⟩
  rw [relocate]
  simp only [prepared, finished, Site.move, captured, Snapshot.ofValue?_toValue,
    Option.bind_some, left.identity, unpacked, arrived]

theorem Travelled.arrives {settings : Settings} {arrived : Site DeviceWorld Fetcher}
    (travelled : Travelled place actor settings site arrived) :
    Arrives place actor site arrived := by
  cases travelled with
  | intro _ left _ rests _ requests response _ _ resumes ports =>
      exact
        { resumes.toCoherent with
          ports := ports
          requests := resumes.requests.trans (requests.trans left.requests)
          carriedResponse := resumes.sameResponse.trans (left.sameResponse ▸ response)
          sameUnread := resumes.sameUnread.trans (rests.sameUnread.trans left.sameUnread) }

theorem relocate_arrives (h : Coherent place actor site.self) (travels : site.store.Travels actor)
    (small : site.self.model.requests < 2 ^ 64) (settings : Settings) :
    ∃ arrived, relocate settings site = some arrived ∧ Arrives place actor site arrived := by
  obtain ⟨arrived, moved, travelled⟩ := relocate_travelled h travels small settings
  exact ⟨arrived, moved, travelled.arrives⟩

/-- Only a fetcher whose count of requests fits can move. -/
theorem small_of_relocate (h : Coherent place actor site.self) {settings : Settings}
    {arrived : Site DeviceWorld Fetcher} (moved : relocate settings site = some arrived) :
    site.self.model.requests < 2 ^ 64 := by
  by_contra overflown
  obtain ⟨leaving, prepared, left⟩ := prepareMove_rests h settings
  obtain ⟨ended, finished, -⟩ := finish_rests left.toCoherent settings
  obtain ⟨e, refused⟩ := capture_overflown (left.requests ▸ overflown)
  have failed : type.capture leaving = .error e := by
    show ((managed.fields.capture leaving.model).map Value.object).map _ = _
    rw [refused]
    rfl
  rw [relocate] at moved
  simp only [prepared, finished, Site.move, failed] at moved
  cases moved

end Dataflow.Actors.Fetcher
