import Mathlib.Data.List.Nodup
import Dataflow.Port.Demand

/-!
# Demand on a port

What a list of declarations asks of a single port is the sum of the counts declared on it,
`PortCount.demand`.  The totals of the list say the same in another form: every declared port has
exactly one total (`PortCount.nodup_ports`, `PortCount.mem_ports`), and that total is the demand on
it (`PortCount.count_eq_demand`).
-/

namespace Dataflow

namespace PortCount

/-- The sum of the counts declared on a port. -/
def demand (port : String) : List PortCount → Nat
  | [] => 0
  | entry :: rest => (if entry.port = port then entry.count else 0) + demand port rest

@[simp] theorem demand_nil (port : String) : demand port [] = 0 := rfl

theorem demand_cons_self (entry : PortCount) (rest : List PortCount) :
    demand entry.port (entry :: rest) = entry.count + demand entry.port rest := by
  simp [demand]

theorem demand_cons_of_ne {entry : PortCount} {port : String} (h : entry.port ≠ port)
    (rest : List PortCount) : demand port (entry :: rest) = demand port rest := by
  simp [demand, h]

theorem demand_append (port : String) (xs ys : List PortCount) :
    demand port (xs ++ ys) = demand port xs + demand port ys := by
  induction xs with
  | nil => simp
  | cons entry rest ih =>
      rw [List.cons_append, demand, demand, ih, Nat.add_assoc]

/-- A port that is not declared is asked for nothing. -/
theorem demand_eq_zero {port : String} {declared : List PortCount}
    (h : port ∉ declared.map PortCount.port) : demand port declared = 0 := by
  induction declared with
  | nil => rfl
  | cons entry rest ih =>
      rw [List.map_cons, List.mem_cons, not_or] at h
      rw [demand_cons_of_ne (Ne.symm h.1), ih h.2]

/-- A port is asked for at least what each declaration on it says. -/
theorem count_le_demand {entry : PortCount} {declared : List PortCount} (h : entry ∈ declared) :
    entry.count ≤ demand entry.port declared := by
  induction declared with
  | nil => cases h
  | cons other rest ih =>
      rcases List.mem_cons.1 h with rfl | later
      · rw [demand_cons_self]
        exact Nat.le_add_right ..
      · exact Nat.le_trans (ih later) (Nat.le_add_left ..)

/-! ## One more declaration -/

/-- A declaration on a port that has no total adds a total at the end. -/
theorem addTo_of_notMem {entry : PortCount} {sums : List PortCount}
    (h : entry.port ∉ sums.map PortCount.port) : addTo entry sums = sums ++ [entry] := by
  induction sums with
  | nil => rfl
  | cons total rest ih =>
      rw [List.map_cons, List.mem_cons, not_or] at h
      rw [addTo, if_neg (Ne.symm h.1), ih h.2, List.cons_append]

/-- A declaration on a port that has a total leaves the ports as they are. -/
theorem ports_addTo_of_mem {entry : PortCount} {sums : List PortCount}
    (h : entry.port ∈ sums.map PortCount.port) :
    (addTo entry sums).map PortCount.port = sums.map PortCount.port := by
  induction sums with
  | nil => simp at h
  | cons total rest ih =>
      by_cases same : total.port = entry.port
      · simp [addTo, same]
      · have later : entry.port ∈ rest.map PortCount.port := by
          rcases List.mem_cons.1 h with h | h
          · exact absurd h.symm same
          · exact h
        rw [addTo, if_neg same, List.map_cons, List.map_cons, ih later]

theorem demand_addTo (port : String) (entry : PortCount) (sums : List PortCount) :
    demand port (addTo entry sums) = demand port sums + demand port [entry] := by
  induction sums with
  | nil => simp [addTo, demand]
  | cons total rest ih =>
      by_cases same : total.port = entry.port
      · simp only [addTo, if_pos same, demand]
        by_cases hit : total.port = port
        · simp only [if_pos hit, if_pos (same ▸ hit)]
          omega
        · simp only [if_neg hit, if_neg (same ▸ hit)]
          omega
      · rw [addTo, if_neg same, demand, demand, ih, Nat.add_assoc]

theorem mem_ports_addTo {port : String} {entry : PortCount} {sums : List PortCount} :
    port ∈ (addTo entry sums).map PortCount.port ↔
      port ∈ sums.map PortCount.port ∨ port = entry.port := by
  by_cases known : entry.port ∈ sums.map PortCount.port
  · rw [ports_addTo_of_mem known]
    constructor
    · exact Or.inl
    · rintro (h | rfl)
      · exact h
      · exact known
  · rw [addTo_of_notMem known]
    simp

theorem nodup_addTo {entry : PortCount} {sums : List PortCount}
    (h : (sums.map PortCount.port).Nodup) : ((addTo entry sums).map PortCount.port).Nodup := by
  by_cases known : entry.port ∈ sums.map PortCount.port
  · rwa [ports_addTo_of_mem known]
  · rw [addTo_of_notMem known, List.map_append, List.nodup_append]
    refine ⟨h, List.nodup_singleton _, ?_⟩
    intro a ha b hb
    rw [List.map_singleton, List.mem_singleton] at hb
    rintro rfl
    exact known (hb ▸ ha)

/-! ## All declarations -/

/-- What the totals keep while declarations are added to them one by one. -/
theorem foldl_addTo (declared sums : List PortCount) (h : (sums.map PortCount.port).Nodup) :
    let result := declared.foldl (fun sums entry => entry.addTo sums) sums
    (result.map PortCount.port).Nodup ∧
      (∀ port, port ∈ result.map PortCount.port ↔
        port ∈ sums.map PortCount.port ∨ port ∈ declared.map PortCount.port) ∧
      ∀ port, demand port result = demand port sums + demand port declared := by
  induction declared generalizing sums with
  | nil => exact ⟨h, by simp, by simp⟩
  | cons entry rest ih =>
      obtain ⟨nodup, mem, total⟩ := ih (entry.addTo sums) (nodup_addTo h)
      refine ⟨nodup, fun port => ?_, fun port => ?_⟩
      · rw [List.foldl_cons, mem port, mem_ports_addTo, List.map_cons, List.mem_cons, or_assoc]
      · rw [List.foldl_cons, total port, demand_addTo, Nat.add_assoc, ← demand_append,
          List.singleton_append]

/-- Every port has one total. -/
theorem nodup_ports (declared : List PortCount) : (ports declared).Nodup :=
  (foldl_addTo declared [] List.nodup_nil).1

/-- The ports that have a total are the declared ones. -/
theorem mem_ports {port : String} {declared : List PortCount} :
    port ∈ ports declared ↔ port ∈ declared.map PortCount.port := by
  have h := (foldl_addTo declared [] List.nodup_nil).2.1 port
  rw [List.map_nil, or_iff_right List.not_mem_nil] at h
  exact h

theorem demand_totals (port : String) (declared : List PortCount) :
    demand port (totals declared) = demand port declared := by
  have h := (foldl_addTo declared [] List.nodup_nil).2.2 port
  rwa [demand_nil, Nat.zero_add] at h

/-- In a list with one entry a port, an entry's count is all that is asked of its port. -/
theorem count_eq_demand_of_nodup {entry : PortCount} {sums : List PortCount}
    (nodup : (sums.map PortCount.port).Nodup) (h : entry ∈ sums) :
    entry.count = demand entry.port sums := by
  induction sums with
  | nil => simp at h
  | cons total rest ih =>
      obtain ⟨fresh, nodup⟩ := List.nodup_cons.1 nodup
      rcases List.mem_cons.1 h with rfl | h
      · rw [demand_cons_self, demand_eq_zero fresh, Nat.add_zero]
      · have different : total.port ≠ entry.port := fun eq =>
          fresh (eq ▸ List.mem_map_of_mem h)
        rw [demand_cons_of_ne different, ih nodup h]

/-- The total of a port is the demand on it. -/
theorem count_eq_demand {total : PortCount} {declared : List PortCount}
    (h : total ∈ totals declared) : total.count = demand total.port declared := by
  rw [count_eq_demand_of_nodup (nodup_ports declared) h, demand_totals]

/-- A declared port has a total, which is the demand on it. -/
theorem exists_total {entry : PortCount} {declared : List PortCount} (h : entry ∈ declared) :
    ∃ total ∈ totals declared,
      total.port = entry.port ∧ total.count = demand entry.port declared := by
  have listed : entry.port ∈ ports declared := mem_ports.2 (List.mem_map_of_mem h)
  obtain ⟨total, member, same⟩ := List.mem_map.1 listed
  exact ⟨total, member, same, same ▸ count_eq_demand member⟩

/-- A port with a total was declared. -/
theorem exists_declaration {total : PortCount} {declared : List PortCount}
    (h : total ∈ totals declared) : ∃ entry ∈ declared, entry.port = total.port :=
  List.mem_map.1 (mem_ports.1 (List.mem_map_of_mem h))

end PortCount

end Dataflow
