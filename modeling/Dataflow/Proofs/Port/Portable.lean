import Dataflow.Proofs.Port.Transaction
import Dataflow.Proofs.Snapshot.Codec
import Dataflow.Snapshot.Record

/-!
# Portable forms, read back

Tokens, queues and port sets lose nothing in their portable form except the cursors of the queues,
and snapshots lose nothing at all.

* `Decoder.record_object` — a record finds its fields in the object that was made of them.
* `Queue.of_ofValue?` — the queues that are read have portable capacities and no pending peek.
* `PortSet.ofValue?_toValue` — a port set is read back with every cursor at the first token.
* `Snapshot.ofValue?_toValue` — a snapshot is read back as it was.
-/

namespace Dataflow

/-! ## Records -/

namespace Decoder

variable {α β : Type}

theorem mapM_some (items : List α) : (items.map some).mapM id = some items := by
  induction items with
  | nil => rfl
  | cons item rest ih => simp [List.mapM_cons, ih]

/-- Decoding items that were written one by one. -/
theorem mapM_map {decode : β → Option α} {write : α → β} {items : List α}
    (h : ∀ a ∈ items, decode (write a) = some a) : (items.map write).mapM decode = some items := by
  induction items with
  | nil => rfl
  | cons a rest ih =>
      have here := h a (List.mem_cons_self ..)
      have later := ih fun b member => h b (List.mem_cons_of_mem _ member)
      simp [List.mapM_cons, here, later]

/-- A record finds its fields in the object that was made of them. -/
theorem record_object {names : List String} {members : List (String × Value)}
    (same : members.map Prod.fst = names) (distinct : names.Nodup) :
    record names (.object members) = some (members.map Prod.snd) := by
  subst same
  have found : (members.map Prod.fst).map (fun name => (Entries.ofList members).find? name) =
      (members.map Prod.snd).map some := by
    rw [List.map_map, List.map_map]
    refine List.map_congr_left fun entry member => ?_
    rw [Function.comp_apply, Entries.find?_ofList distinct, Entries.find?_of_mem distinct member]
    rfl
  simp only [record, Value.object, fields, found, Option.bind_some, mapM_some]

/-- A map is read back from the object of its portable values. -/
theorem keyMap_mapValues {decode : Decoder α} {write : β → Value} {settle : β → α}
    {map : KeyMap β} (h : ∀ entry ∈ map.entries, decode (write entry.2) = some (settle entry.2)) :
    keyMap decode (.obj (map.mapValues write).entries) = some (map.mapValues settle) := by
  have read : ∀ members : List (String × β),
      (∀ entry ∈ members, decode (write entry.2) = some (settle entry.2)) →
      entries some decode (.obj (members.map fun entry => (entry.1, write entry.2))) =
        some (members.map fun entry => (entry.1, settle entry.2)) := by
    intro members all
    induction members with
    | nil => rfl
    | cons entry rest ih =>
        have here := all entry (List.mem_cons_self ..)
        have later := ih fun other member => all other (List.mem_cons_of_mem _ member)
        rw [entries] at later ⊢
        simp only [List.map_cons, List.mapM_cons, here, later]
        rfl
  have ran := read map.entries h
  show Option.map KeyMap.ofList (entries some decode (.obj (map.entries.map _))) = _
  rw [ran, Option.map_some]
  exact congrArg some (KeyMap.ofList_entries (map.mapValues settle))

end Decoder

/-! ## Tokens and queues -/

/-- Nothing of a token is lost. -/
theorem Token.ofValue?_toValue (token : Token) : ofValue? token.toValue = some token := by
  cases token with
  | data value =>
      have fields : Decoder.record ["kind", "value"] (toValue (.data value)) =
          some [.str "data", value] := Decoder.record_object rfl (by decide)
      rw [ofValue?, fields]
      rfl
  | exception reason =>
      have fields : Decoder.record ["kind", "value"] (toValue (.exception reason)) =
          some [.str "exception", .object [("reason", .str reason)]] :=
        Decoder.record_object rfl (by decide)
      have content : Decoder.record ["reason"] (.object [("reason", .str reason)]) =
          some [.str reason] := Decoder.record_object rfl (by decide)
      rw [ofValue?, fields]
      show build true (.object [("reason", .str reason)]) = _
      rw [build, if_pos rfl, content]
      rfl

/-- The capacity is unbounded or fits into 64 bits. -/
def Capacity.Portable : Capacity → Prop
  | bounded size => size < 2 ^ 64
  | unbounded => True

theorem Capacity.ofValue?_toValue {capacity : Capacity} (h : capacity.Portable) :
    ofValue? capacity.toValue = some capacity := by
  cases capacity with
  | unbounded => rfl
  | bounded size =>
      have decoded : Decoder.unsigned 64 (.int size) = some size :=
        (Codec.keepsAs_unsigned h).decoded
      show (Decoder.unsigned 64 (.int size)).map bounded = _
      rw [decoded]
      rfl

/-- Of a queue only the cursor is lost. -/
theorem Queue.ofValue?_toValue {queue : Queue} (h : queue.capacity.Portable) :
    ofValue? queue.toValue = some queue.cancel := by
  have fields : Decoder.record ["capacity", "tokens"] queue.toValue =
      some [queue.capacity.toValue, .arr (queue.tokens.map Token.toValue)] :=
    Decoder.record_object rfl (by decide)
  have tokens : Decoder.list Token.ofValue? (.arr (queue.tokens.map Token.toValue)) =
      some queue.tokens :=
    Decoder.mapM_map fun token _ => token.ofValue?_toValue
  rw [ofValue?, fields]
  simp only [Capacity.ofValue?_toValue h, tokens, Option.bind_some, Option.map_some]
  rfl

theorem Capacity.portable_of_ofValue? {value : Value} {capacity : Capacity}
    (h : ofValue? value = some capacity) : capacity.Portable := by
  rw [ofValue?] at h
  split at h
  · split at h <;> cases h
    trivial
  · obtain ⟨size, read, rfl⟩ := Option.map_eq_some_iff.1 h
    exact Codec.lt_of_decode_unsigned read
  · cases h

/-- Whatever queue is read, its capacity fits into 64 bits and no peek is pending. -/
theorem Queue.of_ofValue? {value : Value} {queue : Queue} (h : ofValue? value = some queue) :
    queue.capacity.Portable ∧ queue.pending = 0 := by
  rw [ofValue?] at h
  split at h
  · obtain ⟨capacity, read, h⟩ := Option.bind_eq_some_iff.1 h
    obtain ⟨tokens, -, rfl⟩ := Option.map_eq_some_iff.1 h
    exact ⟨Capacity.portable_of_ofValue? read, rfl⟩
  · cases h

/-! ## Port sets -/

namespace PortSet

/-- Every capacity fits into 64 bits. -/
def Portable (ports : PortSet) : Prop :=
  ∀ direction port queue, (ports.side direction).get? port = some queue → queue.capacity.Portable

theorem keyMap_sideValue {queues : KeyMap Queue}
    (h : ∀ port queue, queues.get? port = some queue → queue.capacity.Portable) :
    Decoder.keyMap Queue.ofValue? (sideValue queues) = some (queues.mapValues Queue.cancel) := by
  refine Decoder.keyMap_mapValues fun entry member => Queue.ofValue?_toValue ?_
  exact h entry.1 entry.2 (Entries.find?_of_mem queues.ascending.nodup_names member)

/-- Of a port set only the cursors are lost. -/
theorem ofValue?_toValue {ports : PortSet} (h : ports.Portable) :
    ofValue? ports.toValue = some ports.settle := by
  have fields : Decoder.record ["inports", "outports"] ports.toValue =
      some [sideValue ports.inputs, sideValue ports.outputs] :=
    Decoder.record_object rfl (by decide)
  have inputs := keyMap_sideValue (h .input)
  have outputs := keyMap_sideValue (h .output)
  simp only [side] at inputs outputs
  rw [ofValue?, fields]
  simp only [inputs, outputs, Option.bind_some, Option.map_some]
  rfl

theorem get?_side_settle (ports : PortSet) (direction : Direction) (port : String) :
    (ports.settle.side direction).get? port =
      ((ports.side direction).get? port).map Queue.cancel := by
  cases direction <;> simp [settle, side]

/-- Without a pending peek, settling changes nothing. -/
theorem settle_eq_self {ports : PortSet}
    (h : ∀ direction port queue, (ports.side direction).get? port = some queue →
      queue.pending = 0) : ports.settle = ports := by
  refine ext_get? fun direction port => ?_
  rw [get?_side_settle]
  cases found : (ports.side direction).get? port with
  | none => rfl
  | some queue =>
      have start := h direction port queue found
      rw [Option.map_some, Queue.cancel, ← start]

end PortSet

/-! ## Snapshots -/

/-- Nothing of a snapshot is lost. -/
theorem Snapshot.ofValue?_toValue (snapshot : Snapshot) :
    ofValue? snapshot.toValue = some snapshot := by
  have fields : Decoder.record ["actor_type", "actor", "managed"] snapshot.toValue =
      some [.str snapshot.actorType, .str snapshot.actor.id, snapshot.managed] :=
    Decoder.record_object rfl (by decide)
  rw [ofValue?, fields]
  rfl

end Dataflow
