import Mathlib.Data.List.Induction
import Mathlib.Data.List.Perm.Basic
import Dataflow.Action.Basic
import Dataflow.Proofs.Port.Demand

/-!
# Totals of declared ports

The totals of declarations are made by adding one declaration after the other to a list of sums.
What the list keeps on the way is `PortCount.Summary`: the declared ports, each once and in the
order in which they were first declared, with the demand on them (`Summary.addTo`).  No other list
is a summary of the same declarations (`Summary.unique`).

How sums are added up is a question of the operation alone: a declaration on a port that has a sum
may be added earlier (`addTo_comm`), so that adding totals is adding what they are totals of
(`foldl_totals`).  From this follow the laws of totals of totals, in `PortCount.summarised` together
with all others.
-/

namespace Dataflow

namespace PortCount

/-! ## Sums that are added up -/

/-- The last declaration is the last one to be added. -/
theorem totals_concat (declared : List PortCount) (entry : PortCount) :
    totals (declared ++ [entry]) = entry.addTo (totals declared) := by
  rw [totals, List.foldl_append]
  rfl

theorem totals_append (declared more : List PortCount) :
    totals (declared ++ more) = more.foldl (fun sums entry => entry.addTo sums) (totals declared) :=
  List.foldl_append

/-- Two declarations on one port are added like one with both counts. -/
theorem addTo_addTo_of_eq {entry other : PortCount} (same : other.port = entry.port)
    (sums : List PortCount) :
    entry.addTo (other.addTo sums) =
      PortCount.addTo { other with count := other.count + entry.count } sums := by
  induction sums with
  | nil => simp [addTo, same]
  | cons total rest ih =>
      by_cases here : total.port = other.port
      · simp [addTo, here, same, Nat.add_assoc]
      · have apart : total.port ≠ entry.port := same ▸ here
        simp [addTo, here, apart, ih]

/-- A declaration on a port that has a sum may be added before another one. -/
theorem addTo_comm {entry : PortCount} {sums : List PortCount}
    (known : entry.port ∈ sums.map PortCount.port) (other : PortCount) :
    entry.addTo (other.addTo sums) = other.addTo (entry.addTo sums) := by
  induction sums with
  | nil => cases known
  | cons total rest ih =>
      by_cases here : total.port = entry.port
      · by_cases both : entry.port = other.port
        · simp [addTo, here, both, Nat.add_right_comm]
        · simp [addTo, here, both]
      · have later : entry.port ∈ rest.map PortCount.port := by
          rw [List.map_cons, List.mem_cons] at known
          exact known.resolve_left (Ne.symm here)
        by_cases there : total.port = other.port
        · have apart : other.port ≠ entry.port := there ▸ here
          simp [addTo, there, apart]
        · simp [addTo, here, there, ih later]

theorem foldl_addTo_comm {entry : PortCount} {sums : List PortCount}
    (known : entry.port ∈ sums.map PortCount.port) (declared : List PortCount) :
    declared.foldl (fun sums other => other.addTo sums) (entry.addTo sums) =
      entry.addTo (declared.foldl (fun sums other => other.addTo sums) sums) := by
  induction declared generalizing sums with
  | nil => rfl
  | cons other rest ih =>
      have still : entry.port ∈ (other.addTo sums).map PortCount.port :=
        mem_ports_addTo.2 (Or.inl known)
      rw [List.foldl_cons, List.foldl_cons, ← addTo_comm known, ih still]

/-- Sums to which a declaration was added are added up like themselves, then the declaration. -/
theorem foldl_addTo_addTo (entry : PortCount) (declared sums : List PortCount) :
    (entry.addTo declared).foldl (fun sums other => other.addTo sums) sums =
      entry.addTo (declared.foldl (fun sums other => other.addTo sums) sums) := by
  induction declared generalizing sums with
  | nil => rfl
  | cons total rest ih =>
      by_cases same : total.port = entry.port
      · have known : entry.port ∈ (total.addTo sums).map PortCount.port :=
          mem_ports_addTo.2 (Or.inr same.symm)
        rw [addTo, if_pos same, List.foldl_cons, List.foldl_cons, ← addTo_addTo_of_eq same,
          foldl_addTo_comm known]
      · rw [addTo, if_neg same, List.foldl_cons, List.foldl_cons, ih]

/-- Adding the totals of declarations is adding the declarations. -/
theorem foldl_totals (declared sums : List PortCount) :
    (totals declared).foldl (fun sums entry => entry.addTo sums) sums =
      declared.foldl (fun sums entry => entry.addTo sums) sums := by
  induction declared using List.reverseRecOn with
  | nil => rfl
  | append_singleton declared entry ih =>
      rw [totals_concat, foldl_addTo_addTo, ih, List.foldl_append]
      rfl

theorem totals_totals (declared : List PortCount) : totals (totals declared) = totals declared :=
  foldl_totals declared []

theorem totals_totals_append (declared more : List PortCount) :
    totals (totals declared ++ totals more) = totals (declared ++ more) := by
  rw [totals_append, totals_totals, foldl_totals, totals_append]

/-! ## Sizes -/

theorem size_addTo (entry : PortCount) (sums : List PortCount) :
    size (entry.addTo sums) = size sums + entry.count := by
  induction sums with
  | nil => simp [addTo, size]
  | cons total rest ih =>
      by_cases same : total.port = entry.port
      · simp only [addTo, if_pos same, size]
        omega
      · rw [addTo, if_neg same, size, size, ih, Nat.add_assoc]

theorem size_append (declared more : List PortCount) :
    size (declared ++ more) = size declared + size more := by
  induction declared with
  | nil => simp [size]
  | cons entry rest ih => rw [List.cons_append, size, size, ih, Nat.add_assoc]

/-- The totals come to as much as the declarations. -/
theorem size_totals (declared : List PortCount) : size (totals declared) = size declared := by
  induction declared using List.reverseRecOn with
  | nil => rfl
  | append_singleton declared entry ih =>
      rw [totals_concat, size_addTo, ih, size_append]
      simp [size]

theorem count_le_size {entry : PortCount} {declared : List PortCount} (h : entry ∈ declared) :
    entry.count ≤ size declared := by
  induction declared with
  | nil => cases h
  | cons head rest ih =>
      rw [size]
      rcases List.mem_cons.1 h with rfl | later
      · exact Nat.le_add_right ..
      · exact Nat.le_trans (ih later) (Nat.le_add_left ..)

/-- No sum that is made on the way exceeds the size of all declarations. -/
theorem count_le_size_of_seen {seen declared : List PortCount} (first : seen <+: declared)
    {total : PortCount} (h : total ∈ totals seen) : total.count ≤ size declared := by
  obtain ⟨rest, rfl⟩ := first
  have within := count_le_size h
  rw [size_totals] at within
  rw [size_append]
  exact Nat.le_trans within (Nat.le_add_right ..)

/-! ## Summaries -/

/-- The sums are those of the declarations, in order. -/
structure Summary (declared sums : List PortCount) : Prop where
  /-- The ports are the declared ones. -/
  listed : ∀ port, port ∈ sums.map PortCount.port ↔ port ∈ declared.map PortCount.port
  /-- A port comes before another one if it was declared first. -/
  inOrder : (sums.map PortCount.port).Pairwise fun first second =>
    (declared.map PortCount.port).idxOf first < (declared.map PortCount.port).idxOf second
  /-- Each has the sum of its counts. -/
  counts : ∀ total ∈ sums, total.count = demand total.port declared

variable {declared sums : List PortCount}

theorem summary_nil : Summary [] [] where
  listed _ := Iff.rfl
  inOrder := List.Pairwise.nil
  counts _ h := by cases h

/-- A summary lists each port once. -/
theorem Summary.nodup (h : Summary declared sums) : (sums.map PortCount.port).Nodup := by
  refine List.Pairwise.imp ?_ h.inOrder
  intro first second before same
  exact Nat.lt_irrefl _ (same ▸ before)

/-- One more declaration keeps the order in which ports were first declared. -/
theorem Summary.inOrder_concat (h : Summary declared sums) (entry : PortCount) :
    (sums.map PortCount.port).Pairwise fun first second =>
      ((declared ++ [entry]).map PortCount.port).idxOf first <
        ((declared ++ [entry]).map PortCount.port).idxOf second := by
  rw [List.map_append]
  refine h.inOrder.imp_of_mem ?_
  intro first second here there before
  rwa [List.idxOf_append_of_mem ((h.listed first).1 here),
    List.idxOf_append_of_mem ((h.listed second).1 there)]

theorem Summary.inOrder_addTo (h : Summary declared sums) (entry : PortCount) :
    ((entry.addTo sums).map PortCount.port).Pairwise fun first second =>
      ((declared ++ [entry]).map PortCount.port).idxOf first <
        ((declared ++ [entry]).map PortCount.port).idxOf second := by
  have before := h.inOrder_concat entry
  by_cases known : entry.port ∈ sums.map PortCount.port
  · rwa [ports_addTo_of_mem known]
  · -- a new port comes last, as its first declaration does
    have fresh : entry.port ∉ declared.map PortCount.port := fun member =>
      known ((h.listed _).2 member)
    have grown :
        (entry.addTo sums).map PortCount.port = sums.map PortCount.port ++ [entry.port] := by
      rw [addTo_of_notMem known, List.map_append, List.map_singleton]
    rw [grown, List.pairwise_append]
    refine ⟨before, List.pairwise_singleton _ _, ?_⟩
    intro first here second there
    rw [List.mem_singleton] at there
    have early : first ∈ declared.map PortCount.port := (h.listed first).1 here
    rw [there, List.map_append, List.idxOf_append_of_mem early, List.idxOf_append_of_notMem fresh]
    exact Nat.lt_of_lt_of_le (List.idxOf_lt_length_of_mem early) (Nat.le_add_right ..)

/-- Adding a declaration to a summary gives the summary with that declaration. -/
theorem Summary.addTo (h : Summary declared sums) (entry : PortCount) :
    Summary (declared ++ [entry]) (entry.addTo sums) where
  listed port := by
    rw [mem_ports_addTo, h.listed, List.map_append, List.mem_append, List.map_singleton,
      List.mem_singleton]
  inOrder := h.inOrder_addTo entry
  counts total member := by
    have same : ∀ port, demand port sums = demand port declared := by
      intro port
      by_cases known : port ∈ sums.map PortCount.port
      · obtain ⟨total, there, rfl⟩ := List.mem_map.1 known
        rw [← count_eq_demand_of_nodup h.nodup there, h.counts total there]
      · rw [demand_eq_zero known, demand_eq_zero fun member => known ((h.listed port).2 member)]
    rw [count_eq_demand_of_nodup (nodup_addTo h.nodup) member, demand_addTo, same, demand_append]

/-- The totals are a summary. -/
theorem summary_totals (declared : List PortCount) : Summary declared (totals declared) := by
  induction declared using List.reverseRecOn with
  | nil => exact summary_nil
  | append_singleton declared entry ih =>
      rw [totals_concat]
      exact ih.addTo entry

/-- A summary is made of its ports and the demands on them. -/
theorem Summary.eq_map (h : Summary declared sums) :
    sums = (sums.map PortCount.port).map fun port => ⟨port, demand port declared⟩ := by
  rw [List.map_map]
  refine (List.map_id' sums).symm.trans (List.map_congr_left ?_)
  intro total member
  rw [Function.comp_apply, ← h.counts total member]

/-- There is one summary. -/
theorem Summary.unique {others : List PortCount} (h : Summary declared sums)
    (h' : Summary declared others) : sums = others := by
  have perm : (sums.map PortCount.port).Perm (others.map PortCount.port) := by
    refine (List.perm_ext_iff_of_nodup h.nodup h'.nodup).2 fun port => ?_
    rw [h.listed, h'.listed]
  have ports : sums.map PortCount.port = others.map PortCount.port := by
    refine perm.eq_of_pairwise ?_ h.inOrder h'.inOrder
    intro first second _ _ below above
    exact absurd (Nat.lt_trans below above) (Nat.lt_irrefl _)
  rw [h.eq_map, h'.eq_map, ports]

theorem summary_iff : Summary declared sums ↔ sums = totals declared := by
  constructor
  · intro h
    exact h.unique (summary_totals declared)
  · rintro rfl
    exact summary_totals declared

/-! ## Reordered declarations -/

theorem demand_perm {reordered : List PortCount} (perm : declared.Perm reordered) (port : String) :
    demand port declared = demand port reordered := by
  induction perm with
  | nil => rfl
  | cons entry _ ih => rw [demand, demand, ih]
  | swap first second rest => rw [demand, demand, demand, demand, Nat.add_left_comm]
  | trans _ _ ih ih' => exact ih.trans ih'

/-- Declarations in another order have the same totals, though maybe in another order. -/
theorem totals_perm {reordered : List PortCount} (perm : declared.Perm reordered) :
    (totals declared).Perm (totals reordered) := by
  have h := summary_totals declared
  have h' := summary_totals reordered
  have ports : (ports declared).Perm (ports reordered) := by
    refine (List.perm_ext_iff_of_nodup (nodup_ports _) (nodup_ports _)).2 fun port => ?_
    rw [mem_ports, mem_ports, (perm.map PortCount.port).mem_iff]
  have same : (fun port => (⟨port, demand port declared⟩ : PortCount)) =
      fun port => ⟨port, demand port reordered⟩ := by
    funext port
    rw [demand_perm perm port]
  rw [h.eq_map, h'.eq_map, same]
  exact ports.map _

/-! ## The laws of totals -/

/-- What the totals of declarations have to do with the declarations. -/
structure Summarised (declared : List PortCount) : Prop where
  /-- They list the declared ports, each once and in the order of their first declarations, with
  the sums of their counts; and there is one such list. -/
  exactly : ∀ sums, Summary declared sums ↔ sums = totals declared
  /-- They come to as much as the declarations. -/
  size : size (totals declared) = size declared
  /-- An action has to produce as many values as its outputs have room for in total. -/
  arity : ∀ {S : Type} (action : Action S), action.outputs = declared →
    action.outputArity = PortCount.size (totals action.outputs)
  /-- Totals of totals are the totals. -/
  again : totals (totals declared) = totals declared
  /-- Declarations may be summed up in parts. -/
  append : ∀ more, totals (declared ++ more) = totals (totals declared ++ totals more)
  /-- In which order ports are declared changes no port and no total. -/
  reordered : ∀ others, declared.Perm others → (totals declared).Perm (totals others)
  /-- If the size of the declarations is within a bound, so are all sums that are made on the
  way. -/
  within : ∀ bound, PortCount.size declared ≤ bound → ∀ seen, seen <+: declared →
    ∀ total ∈ totals seen, total.count ≤ bound

/-- Totals agree with the declarations. -/
theorem summarised (declared : List PortCount) : Summarised declared where
  exactly _ := summary_iff
  size := size_totals declared
  arity action _ := (size_totals action.outputs).symm
  again := totals_totals declared
  append more := (totals_totals_append declared more).symm
  reordered _ perm := totals_perm perm
  within _ fits _ first _ member := Nat.le_trans (count_le_size_of_seen first member) fits

example : totals [⟨"a", 1⟩, ⟨"b", 0⟩, ⟨"a", 3⟩] = [⟨"a", 4⟩, ⟨"b", 0⟩] := by decide

end PortCount

end Dataflow
