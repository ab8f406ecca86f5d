import Dataflow.Port.Store
import Dataflow.Proofs.Port.Portable

/-!
# Port sets that are written and read

A port set comes back from its portable form as it was, but for the cursors of its queues, which
are not written.  Whatever value is read as a port set, in whichever of its forms, gives one
without pending peeks; so writing and reading that one again changes nothing.

* `PortSet.of_ofValue?` — whatever port set is read can be written again.
* `PortSet.settle_eq_self_iff` — which port sets do not change when their peeks are dropped.
* `PortSet.portable_form` — what is written and read, read and written, and moved through the
  portable form.
-/

namespace Dataflow

/-! ## What is read -/

namespace Decoder

variable {α β : Type}

theorem exists_of_mem_mapM {decode : α → Option β} {items : List α} {results : List β}
    (h : items.mapM decode = some results) {b : β} (member : b ∈ results) :
    ∃ a ∈ items, decode a = some b := by
  induction items generalizing results with
  | nil =>
      cases h
      cases member
  | cons a rest ih =>
      rw [List.mapM_cons, Option.bind_eq_bind, Option.bind_eq_some_iff] at h
      obtain ⟨first, here, h⟩ := h
      obtain ⟨others, later, same⟩ := Option.bind_eq_some_iff.1 h
      cases same
      rcases List.mem_cons.1 member with rfl | member
      · exact ⟨a, List.mem_cons_self .., here⟩
      · obtain ⟨a', member', found⟩ := ih later member
        exact ⟨a', List.mem_cons_of_mem _ member', found⟩

/-- What is found in a map that was read was read itself. -/
theorem exists_of_keyMap {decode : Decoder α} {value : Value} {map : KeyMap α}
    (h : keyMap decode value = some map) {name : String} {a : α} (found : map.get? name = some a) :
    ∃ v, decode v = some a := by
  obtain ⟨members, read, rfl⟩ := Option.map_eq_some_iff.1 h
  cases value with
  | obj given =>
      obtain ⟨⟨_, v⟩, -, decoded⟩ := exists_of_mem_mapM read (KeyMap.mem_of_get?_ofList found)
      obtain ⟨a', decoded, same⟩ := Option.map_eq_some_iff.1 decoded
      cases same
      exact ⟨v, decoded⟩
  | _ => cases read

end Decoder

namespace PortSet

/-- No peek is pending on any queue. -/
def Settled (ports : PortSet) : Prop :=
  ∀ direction port queue, (ports.side direction).get? port = some queue → queue.pending = 0

theorem settled_settle (ports : PortSet) : ports.settle.Settled := by
  intro direction port queue found
  rw [get?_side_settle] at found
  obtain ⟨before, -, rfl⟩ := Option.map_eq_some_iff.1 found
  rfl

/-- Dropping the pending peeks changes a port set just if there are some. -/
theorem settle_eq_self_iff {ports : PortSet} : ports.settle = ports ↔ ports.Settled :=
  ⟨fun same => same ▸ ports.settled_settle, settle_eq_self⟩

/-- Whatever port set is read can be written, and no peek is pending on it. -/
theorem of_ofValue? {value : Value} {ports : PortSet} (h : ofValue? value = some ports) :
    ports.Portable ∧ ports.Settled := by
  have each : ∀ direction port queue, (ports.side direction).get? port = some queue →
      queue.capacity.Portable ∧ queue.pending = 0 := by
    rw [ofValue?] at h
    split at h
    · obtain ⟨inputs, readInputs, h⟩ := Option.bind_eq_some_iff.1 h
      obtain ⟨outputs, readOutputs, rfl⟩ := Option.map_eq_some_iff.1 h
      intro direction port queue found
      cases direction with
      | input =>
          obtain ⟨v, read⟩ := Decoder.exists_of_keyMap readInputs found
          exact Queue.of_ofValue? read
      | output =>
          obtain ⟨v, read⟩ := Decoder.exists_of_keyMap readOutputs found
          exact Queue.of_ofValue? read
    · cases h
  exact ⟨fun direction port queue found => (each direction port queue found).1,
    fun direction port queue found => (each direction port queue found).2⟩

/-! ## Writing and reading -/

/-- A port set that was read is read again as it is. -/
theorem ofValue?_toValue_of_ofValue? {value : Value} {ports : PortSet}
    (read : ofValue? value = some ports) : ofValue? ports.toValue = some ports := by
  obtain ⟨portable, settled⟩ := of_ofValue? read
  rw [ofValue?_toValue portable, settle_eq_self settled]

/-- A store takes in a port set without its pending peeks in any case. -/
theorem attach_settle (store : PortStore) (actor : ActorRef) (ports : PortSet) :
    store.attach actor ports.settle = store.attach actor ports := by
  rw [PortStore.attach, PortStore.attach, settle_eq_self ports.settled_settle]

/-- What the portable form keeps of port sets, whose capacities are counts of 64 bits.  Written and
read, a port set has every cursor at the first token and is as it was otherwise.  Whatever value is
read as a port set, that one is kept as it is.  So it makes no difference to an actor that moves
whether its ports are written and read on the way. -/
theorem portable_form :
    (∀ ports : PortSet, ports.Portable → ∃ back, ofValue? ports.toValue = some back ∧
      (∀ direction port, (back.side direction).get? port =
        ((ports.side direction).get? port).map fun queue => { queue with pending := 0 }) ∧
      (back = ports ↔ ports.Settled)) ∧
    (∀ value ports, ofValue? value = some ports → ofValue? ports.toValue = some ports) ∧
    ∀ (source target : PortStore) (actor : ActorRef) (ports : PortSet),
      (source.detach actor).2 = some ports → ports.Portable →
        (ofValue? ports.toValue).map (target.attach actor) =
          some (target.attach actor ports) := by
  refine ⟨fun ports portable => ?_, fun value ports read => ?_,
    fun source target actor ports _ portable => ?_⟩
  · exact ⟨ports.settle, ofValue?_toValue portable, ports.get?_side_settle, settle_eq_self_iff⟩
  · exact ofValue?_toValue_of_ofValue? read
  · rw [ofValue?_toValue portable, Option.map_some, attach_settle]

/-- A port set as a list of its two fields, with a member that is not used, and with more tokens
than places: null, an exception, and data that looks like one. -/
def listed : Value :=
  .arr [.obj [("in", .obj [("capacity", .obj [("bounded", .int 1)]), ("note", .null),
    ("tokens", .arr [.arr [.str "data", .null],
      .obj [("kind", .str "exception"), ("value", .obj [("reason", .str "late")])],
      .obj [("kind", .str "data"), ("value", .obj [("kind", .str "exception"),
        ("value", .obj [("reason", .str "late")])])]])])], .obj []]

/-- It is read, and written as an object it is read as the same port set. -/
theorem listed_form : ∃ ports, ofValue? listed = some ports ∧
    ((ports.side .input).get? "in").map Queue.tokens =
      some [.data .null, .exception "late", .data (.obj [("kind", .str "exception"),
        ("value", .obj [("reason", .str "late")])])] ∧
    ofValue? ports.toValue = some ports :=
  ⟨_, rfl, rfl, portable_form.2.1 listed _ rfl⟩

end PortSet

end Dataflow
