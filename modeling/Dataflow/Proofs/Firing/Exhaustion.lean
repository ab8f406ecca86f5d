import Dataflow.Proofs.Firing.Conservation

/-!
# The in-ports that a call empties

A firing notes which in-ports of its action are empty right after it, and a report collects these
notes over the call.  What is noted in the middle of a call is still true at its end, since no
firing puts anything on an in-port; and an in-port that a firing touched and that is empty at the
end was emptied by some firing, which noted it.

* `Firing.Notes` — a firing is one of an action, and notes what the ports after it are like.
* `Behaviour.Completed.split` — the completed firings of a call cut in two.
* `Behaviour.Completed.empties` — an in-port that is empty after some firings was so before, or one
  of them notes it.
* `Behaviour.fire_exhausted` — a report names the in-ports that its firings touched and that are
  empty when the call returns.
-/

namespace Dataflow

open PortCount

/-! ## Sets of names -/

namespace NameSet

theorem mem_foldl_add {more : List String} {names : NameSet} {name : String} :
    name ∈ (more.foldl add names).toList ↔ name ∈ names.toList ∨ name ∈ more := by
  induction more generalizing names with
  | nil => simp
  | cons first rest ih =>
      rw [List.foldl_cons, ih, toList, add, KeyMap.mem_keys_insert, List.mem_cons, or_assoc]
      rfl

theorem mem_union {names more : NameSet} {name : String} :
    name ∈ (names.union more).toList ↔ name ∈ names.toList ∨ name ∈ more.toList :=
  mem_foldl_add

end NameSet

/-- The report of a call has the exhausted ports of each of its firings. -/
theorem FireReport.mem_exhausted_foldl_record {report : FireReport} {firings : List Firing}
    {port : String} :
    port ∈ (firings.foldl record report).exhausted.toList ↔
      port ∈ report.exhausted.toList ∨ ∃ firing ∈ firings, port ∈ firing.exhausted.toList := by
  induction firings generalizing report with
  | nil => simp
  | cons firing rest ih =>
      rw [List.foldl_cons, ih, record, NameSet.mem_union, List.exists_mem_cons_iff, or_assoc]

/-! ## Empty in-ports -/

namespace PortStore

variable {store before after : PortStore} {actor : ActorRef} {port : String}

/-- The actor has this in-port, and nothing is queued on it. -/
def EmptyAt (store : PortStore) (actor : ActorRef) (port : String) : Prop :=
  ∃ queue, store.queue actor .input port = .ok queue ∧ queue.tokens = []

/-- An in-port that is empty stays so, whatever fires. -/
theorem Advances.emptyAt (h : Advances actor before after) (empty : before.EmptyAt actor port) :
    after.EmptyAt actor port := by
  obtain ⟨queue, found, none⟩ := empty
  obtain ⟨left, part, found'⟩ := h.inputs port queue found
  rw [none, List.suffix_nil] at part
  exact ⟨_, found', part⟩

theorem mem_emptied {names : List String} :
    port ∈ (store.emptied actor names).toList ↔
      port ∈ names ∧ store.tokensOn actor .input port = [] := by
  have none : port ∉ NameSet.toList ∅ := List.not_mem_nil
  rw [emptied, NameSet.mem_foldl_add, or_iff_right none, List.mem_filter, List.isEmpty_iff]

end PortStore

/-! ## What a firing notes -/

/-- The firing is one of an action of the priority list, and its exhausted ports are the declared
in-ports that are empty on the given ports. -/
structure Firing.Notes {S : Type} (firing : Firing) (behaviour : Behaviour S) (action : Action S)
    (store : PortStore) : Prop where
  place : behaviour.actions[firing.priority]? = some action
  name : firing.action = action.name
  exhausted : ∀ port, port ∈ firing.exhausted.toList ↔
    port ∈ action.inputs.map PortCount.port ∧ store.EmptyAt behaviour.actor port

variable {S : Type}

/-- A firing takes nothing off an in-port that its action does not declare. -/
theorem Action.emptyAt_of_effect {action : Action S} {actor : ActorRef} {values : List Value}
    {store : PortStore} {port : String} (undeclared : port ∉ action.inputs.map PortCount.port)
    (empty : (action.effect actor values store).EmptyAt actor port) : store.EmptyAt actor port := by
  obtain ⟨queue, found, none⟩ := empty
  cases before : store.queue actor .input port with
  | error e =>
      rw [queue_effect_error action values before] at found
      cases found
  | ok old =>
      rw [queue_effect_input action values before, demand_eq_zero undeclared] at found
      cases found
      exact ⟨old, before, none⟩

namespace Behaviour

variable {behaviour : Behaviour S} {state after last : S} {store next final : PortStore}

theorem select_notes (clean : store.Unpeeked behaviour.actor) {firing : Firing}
    (h : (behaviour.select state store).value = ⟨after, next, .ok (some firing)⟩) :
    ∃ action, firing.Notes behaviour action next ∧
      ∀ port, port ∉ action.inputs.map PortCount.port → next.EmptyAt behaviour.actor port →
        store.EmptyAt behaviour.actor port := by
  have selected := select_selected clean state
  rw [h] at selected
  cases selected with
  | @fired passed _ action values _ _ split _ fires =>
      refine ⟨action, ⟨?_, rfl, fun port => ?_⟩, fun port => Action.emptyAt_of_effect⟩
      · simp [split, Action.firing]
      · rw [Action.firing, PortStore.mem_emptied, mem_ports]
        refine and_congr_right fun declared => ?_
        obtain ⟨input, member, rfl⟩ := List.mem_map.1 declared
        obtain ⟨queue, found⟩ := fires.tokens.known input member
        have taken := Action.queue_effect_input action values found
        have same : (store.consume behaviour.actor action.inputs).tokensOn behaviour.actor .input
            input.port = queue.tokens.drop (demand input.port action.inputs) :=
          PortStore.tokensOn_of_ok (PortStore.queue_mapSide_self _ found)
        rw [same, PortStore.EmptyAt, taken]
        simp

/-! ## The firings of a call -/

/-- Completed firings can be cut in two at any place. -/
theorem Completed.split {firings later : List Firing}
    (h : Completed behaviour state store (firings ++ later) last final) :
    ∃ rest mid, Completed behaviour state store firings rest mid ∧
      Completed behaviour rest mid later last final := by
  induction firings generalizing state store with
  | nil => exact ⟨state, store, .nil state store, h⟩
  | cons firing firings ih =>
      cases h with
      | cons selected others =>
          obtain ⟨rest, mid, first, second⟩ := ih others
          exact ⟨rest, mid, .cons selected first, second⟩

/-- The last of some completed firings notes the in-ports that it leaves empty. -/
theorem Completed.notes {before : List Firing} {firing : Firing}
    (h : Completed behaviour state store (before ++ [firing]) last final)
    (clean : store.Unpeeked behaviour.actor) : ∃ action, firing.Notes behaviour action final := by
  obtain ⟨rest, mid, earlier, one⟩ := h.split
  cases one with
  | cons selected none =>
      cases none
      obtain ⟨action, notes, -⟩ := select_notes (earlier.unpeeked clean) selected
      exact ⟨action, notes⟩

/-- An in-port that is empty after some firings was so before, or one of them notes it. -/
theorem Completed.empties {firings : List Firing}
    (h : Completed behaviour state store firings last final)
    (clean : store.Unpeeked behaviour.actor) {port : String}
    (empty : final.EmptyAt behaviour.actor port) :
    store.EmptyAt behaviour.actor port ∨ ∃ firing ∈ firings, port ∈ firing.exhausted.toList := by
  induction h with
  | nil => exact Or.inl empty
  | @cons start _ _ _ next _ firing _ selected _ ih =>
      have kept := unpeeked_select clean start
      rw [selected] at kept
      rcases ih kept empty with already | ⟨later, member, noted⟩
      · obtain ⟨action, notes, untouched⟩ := select_notes clean selected
        by_cases declared : port ∈ action.inputs.map PortCount.port
        · have noted := (notes.exhausted port).2 ⟨declared, already⟩
          exact Or.inr ⟨firing, List.mem_cons_self .., noted⟩
        · exact Or.inl (untouched port declared already)
      · exact Or.inr ⟨later, List.mem_cons_of_mem _ member, noted⟩

/-- The in-ports that some firings note are those that they touch and that are empty after them. -/
theorem Completed.mem_exhausted {firings : List Firing}
    (h : Completed behaviour state store firings last final)
    (clean : store.Unpeeked behaviour.actor) (port : String) :
    (∃ firing ∈ firings, port ∈ firing.exhausted.toList) ↔
      ∃ firing ∈ firings, ∃ action, behaviour.actions[firing.priority]? = some action ∧
        firing.action = action.name ∧ port ∈ action.inputs.map PortCount.port ∧
        final.EmptyAt behaviour.actor port := by
  -- the firings after one of the given ones start where its notes are about
  have cut : ∀ firing ∈ firings, ∃ rest mid later action, firing.Notes behaviour action mid ∧
      Completed behaviour rest mid later last final ∧ mid.Unpeeked behaviour.actor ∧
      later ⊆ firings := by
    intro firing member
    obtain ⟨before, later, rfl⟩ := List.append_of_mem member
    rw [List.append_cons] at h
    obtain ⟨rest, mid, first, second⟩ := h.split
    obtain ⟨action, notes⟩ := first.notes clean
    exact ⟨rest, mid, later, action, notes, second, first.unpeeked clean, by simp⟩
  constructor
  · rintro ⟨firing, member, noted⟩
    obtain ⟨rest, mid, later, action, notes, second, cleanMid, -⟩ := cut firing member
    obtain ⟨declared, empty⟩ := (notes.exhausted port).1 noted
    have stays := (second.conserves cleanMid).toAdvances.emptyAt empty
    exact ⟨firing, member, action, notes.place, notes.name, declared, stays⟩
  · rintro ⟨firing, member, action, place, -, declared, empty⟩
    obtain ⟨rest, mid, later, action', notes, second, cleanMid, part⟩ := cut firing member
    obtain rfl : action' = action := Option.some.inj (notes.place.symm.trans place)
    rcases second.empties cleanMid empty with already | ⟨other, among, noted⟩
    · exact ⟨firing, member, (notes.exhausted port).2 ⟨declared, already⟩⟩
    · exact ⟨other, part among, noted⟩

/-- A report is made of the completed firings of its call, which leave the ports as they are when
the call returns. -/
theorem fire_reported (clean : store.Unpeeked behaviour.actor) {limit : Nat} {report : FireReport}
    (h : (behaviour.fire limit state store).value = some ⟨last, final, .ok report⟩) :
    ∃ rest, Completed behaviour state store report.firings rest final ∧
      report = report.firings.foldl FireReport.record {} := by
  obtain ⟨firings, rest, end', completed, ⟨settled, same⟩ | ⟨e, -, failed⟩⟩ := fire_completed h
  · cases same
    have selected := select_selected (completed.unpeeked clean) rest
    rw [settled] at selected
    cases selected with
    | rest _ =>
        rw [firings_foldl_record, List.nil_append]
        exact ⟨rest, completed, rfl⟩
  · cases failed

/-- Whenever a call succeeds, its report names exactly those in-ports that an action which fired
declares, with whatever count, and that are empty when the call returns.  They are the ports that
its firings note, each of them those that its action declares and that are empty right after it. -/
theorem fire_exhausted (clean : store.Unpeeked behaviour.actor) {limit : Nat} {report : FireReport}
    (h : (behaviour.fire limit state store).value = some ⟨last, final, .ok report⟩) :
    (∀ port, port ∈ report.exhausted.toList ↔
      ∃ firing ∈ report.firings, ∃ action, behaviour.actions[firing.priority]? = some action ∧
        firing.action = action.name ∧ port ∈ action.inputs.map PortCount.port ∧
        final.EmptyAt behaviour.actor port) ∧
    (∀ port, port ∈ report.exhausted.toList ↔
      ∃ firing ∈ report.firings, port ∈ firing.exhausted.toList) ∧
    ∀ before firing later, report.firings = before ++ firing :: later →
      ∃ rest mid end' action, Completed behaviour state store (before ++ [firing]) rest mid ∧
        Completed behaviour rest mid later end' final ∧ firing.Notes behaviour action mid := by
  obtain ⟨end', completed, reported⟩ := fire_reported clean h
  have noted : ∀ port, port ∈ report.exhausted.toList ↔
      ∃ firing ∈ report.firings, port ∈ firing.exhausted.toList := by
    intro port
    have none : port ∉ NameSet.toList ∅ := List.not_mem_nil
    rw [reported, FireReport.mem_exhausted_foldl_record, or_iff_right none, ← reported]
  refine ⟨fun port => ?_, noted, fun before firing later cut => ?_⟩
  · rw [noted, completed.mem_exhausted clean]
  · rw [cut, List.append_cons] at completed
    obtain ⟨rest, mid, first, second⟩ := completed.split
    obtain ⟨action, notes⟩ := first.notes clean
    exact ⟨rest, mid, end', action, first, second, notes⟩

/-- An actor that looks at `in` once, without reading it, before it reads what is there. -/
def glancer (actor : ActorRef) : Behaviour Bool where
  actor
  actions :=
    [{ name := "look", guard := some fun looked => !looked, inputs := [⟨"in", 0⟩]
       body := fun _ _ => pure (true, .ok (.fired true)) },
     { name := "take", inputs := [⟨"in", 1⟩]
       body := fun looked _ => pure (looked, .ok (.fired true)) }]
  onException looked _ _ := pure (looked, .ok (.fired false))

/-- The look finds a token on the in-port, and only the firing after it leaves the port empty. -/
theorem glancer_exhausted : ∃ last final report,
    ((glancer ⟨"g"⟩).fire 3 false (relayPorts ⟨"g"⟩ [.data (.int 5)])).value =
      some ⟨last, final, .ok report⟩ ∧
    report.actions = ["look", "take"] ∧
    report.firings.map (fun firing => firing.exhausted.toList) = [[], ["in"]] ∧
    report.exhausted.toList = ["in"] ∧ final.EmptyAt ⟨"g"⟩ "in" := by
  obtain ⟨last, final, report, ran, names, notes, ports⟩ : ∃ last final report,
      ((glancer ⟨"g"⟩).fire 3 false (relayPorts ⟨"g"⟩ [.data (.int 5)])).value =
        some ⟨last, final, .ok report⟩ ∧
      report.actions = ["look", "take"] ∧
      report.firings.map (fun firing => firing.exhausted.toList) = [[], ["in"]] ∧
      report.exhausted.toList = ["in"] := ⟨_, _, _, rfl, rfl, rfl, rfl⟩
  obtain ⟨exhausted, -⟩ := fire_exhausted (unpeeked_relayPorts _ _) ran
  obtain ⟨_, _, _, _, _, _, empty⟩ := (exhausted "in").1 (by simp [ports])
  exact ⟨last, final, report, ran, names, notes, ports, empty⟩

end Behaviour

end Dataflow
