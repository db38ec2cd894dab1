import Worksheet.Formula.Basic

/-! Membership in sets of names, stated by equality. -/
namespace Worksheet.NameSet

theorem mem_insert {names : NameSet} {x y : String} : y ∈ names.insert x ↔ y = x ∨ y ∈ names := by
  rw [Std.ExtTreeSet.mem_insert, Std.compare_eq_iff_eq, eq_comm]

theorem mem_erase {names : NameSet} {x y : String} : y ∈ names.erase x ↔ y ≠ x ∧ y ∈ names := by
  rw [Std.ExtTreeSet.mem_erase, ne_eq, Std.compare_eq_iff_eq, eq_comm]

theorem mem_filter {names : NameSet} {p : String → Bool} {x : String} :
    x ∈ names.filter p ↔ x ∈ names ∧ p x = true := by
  simp [Std.ExtTreeSet.mem_filter]

theorem mem_ofList {names : List String} {x : String} :
    x ∈ (Std.ExtTreeSet.ofList names : NameSet) ↔ x ∈ names := by
  rw [Std.ExtTreeSet.mem_ofList, List.contains_iff_mem]

theorem nodup_toList (names : NameSet) : names.toList.Nodup := by
  refine names.distinct_toList.imp fun {x y} h => ?_
  rwa [Std.compare_eq_iff_eq] at h

theorem size_eq_zero {names : NameSet} : names.size = 0 ↔ names = ∅ :=
  Std.ExtTreeSet.eq_empty_iff_size_eq_zero.symm

theorem size_pos {names : NameSet} {x : String} (h : x ∈ names) : 1 ≤ names.size := by
  refine Nat.one_le_iff_ne_zero.mpr fun zero => ?_
  exact Std.ExtTreeSet.not_mem_empty (size_eq_zero.mp zero ▸ h)

theorem size_erase_of_mem {names : NameSet} {x : String} (h : x ∈ names) :
    (names.erase x).size = names.size - 1 := by
  rw [Std.ExtTreeSet.size_erase, if_pos (Std.ExtTreeSet.mem_iff_contains.mp h)]

theorem erase_of_not_mem {names : NameSet} {x : String} (h : x ∉ names) : names.erase x = names := by
  apply Std.ExtTreeSet.ext_mem
  intro y
  rw [mem_erase]
  exact ⟨And.right, fun hy => ⟨fun e => h (e ▸ hy), hy⟩⟩

theorem size_eq_length {names : NameSet} {xs : List String} (nodup : xs.Nodup)
    (mem : ∀ x, x ∈ xs ↔ x ∈ names) : names.size = xs.length := by
  rw [← Std.ExtTreeSet.length_toList]
  refine (List.Perm.length_eq ?_).symm
  rw [List.perm_ext_iff_of_nodup nodup (nodup_toList names)]
  intro x
  rw [mem, Std.ExtTreeSet.mem_toList]

end Worksheet.NameSet
