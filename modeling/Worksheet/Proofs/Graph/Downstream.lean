import Worksheet.Graph.Order
import Worksheet.Proofs.Graph.Edges
import Mathlib.Logic.Relation

/-! Reachability along edges. -/
namespace Worksheet.Graph
open Relation

def HasEdge (g : Graph) (s t : String) : Prop := t ∈ g.dependents s

/-- The reflexive and transitive closure of the edge relation: `t` is `s` or depends on it. -/
abbrev Leads (g : Graph) (s t : String) : Prop := ReflTransGen g.HasEdge s t

/-- Every edge is recorded at both of its end nodes. -/
def Mirrored (g : Graph) : Prop := ∀ s t, t ∈ g.dependents s ↔ s ∈ g.precedents t

theorem Represents.hasEdge_iff {g : Graph} {edges : Edges} (hg : g.Represents edges) {s t : String} :
    g.HasEdge s t ↔ (s, t) ∈ edges :=
  hg.mem_dependents s t

theorem Represents.mirrored {g : Graph} {edges : Edges} (hg : g.Represents edges) : g.Mirrored :=
  fun s t => (hg.mem_dependents s t).trans (hg.mem_precedents s t).symm

/-- An iteration order for each unordered set that the algorithms traverse: dependents, precedents,
reached names and counted names. -/
structure Visit (g : Graph) where
  dependents : String → List String
  precedents : String → List String
  reached : NameSet → List String
  counted : NameSet → List String
  dependents_perm : ∀ name, (dependents name).Perm (g.dependents name).toList
  precedents_perm : ∀ name, (precedents name).Perm (g.precedents name).toList
  reached_perm : ∀ names, (reached names).Perm names.toList
  counted_perm : ∀ names, (counted names).Perm names.toList

namespace Visit
variable {g : Graph}

/-- Iteration in the order of names. -/
def sorted (g : Graph) : g.Visit where
  dependents name := (g.dependents name).toList
  precedents name := (g.precedents name).toList
  reached := Std.ExtTreeSet.toList
  counted := Std.ExtTreeSet.toList
  dependents_perm _ := .refl _
  precedents_perm _ := .refl _
  reached_perm _ := .refl _
  counted_perm _ := .refl _

theorem mem_dependents (v : g.Visit) {s t : String} : t ∈ v.dependents s ↔ g.HasEdge s t := by
  rw [(v.dependents_perm s).mem_iff, Std.ExtTreeSet.mem_toList, HasEdge]

/-- The names in `seen`, together with those in `todo` and all that depend on these, traversed in the
order of a visit. -/
def closure (v : g.Visit) (seen : NameSet) : List String → NameSet
  | [] => seen
  | name :: todo =>
    if name ∈ seen then v.closure seen todo
    else v.closure (seen.insert name) (v.dependents name ++ todo)
termination_by todo => unexplored seen g.nodes.toList + todo.length
decreasing_by
  · simp
  · next new =>
    have := unexplored_dependents_le g new
    simp only [List.length_append, List.length_cons, (v.dependents_perm name).length_eq,
      Std.ExtTreeSet.length_toList]
    omega

theorem closure_sorted (seen : NameSet) (todo : List String) :
    (sorted g).closure seen todo = g.closure seen todo := by
  induction seen, todo using Graph.closure.induct g with
  | case1 seen => rw [closure, Graph.closure]
  | case2 seen name todo old ih => rw [closure, Graph.closure, if_pos old, if_pos old, ih]
  | case3 seen name todo new ih =>
    rw [closure, Graph.closure, if_neg new, if_neg new, ← ih]
    rfl

theorem subset_closure (v : g.Visit) (seen : NameSet) (todo : List String) {x : String}
    (hx : x ∈ seen ∨ x ∈ todo) : x ∈ v.closure seen todo := by
  induction seen, todo using closure.induct v with
  | case1 seen =>
    rw [closure]
    exact hx.resolve_right List.not_mem_nil
  | case2 seen name todo old ih =>
    rw [closure, if_pos old]
    rw [List.mem_cons] at hx
    rcases hx with hx | rfl | hx
    · exact ih (.inl hx)
    · exact ih (.inl old)
    · exact ih (.inr hx)
  | case3 seen name todo new ih =>
    rw [closure, if_neg new]
    rw [List.mem_cons] at hx
    rcases hx with hx | rfl | hx
    · exact ih (.inl (Std.ExtTreeSet.mem_insert.mpr (.inr hx)))
    · exact ih (.inl Std.ExtTreeSet.mem_insert_self)
    · exact ih (.inr (List.mem_append_right _ hx))

theorem closure_sound (v : g.Visit) (seen : NameSet) (todo : List String) {x : String}
    (hx : x ∈ v.closure seen todo) : x ∈ seen ∨ ∃ y ∈ todo, g.Leads y x := by
  induction seen, todo using closure.induct v with
  | case1 seen =>
    rw [closure] at hx
    exact .inl hx
  | case2 seen name todo old ih =>
    rw [closure, if_pos old] at hx
    rcases ih hx with hs | ⟨y, hy, lead⟩
    · exact .inl hs
    · exact .inr ⟨y, List.mem_cons_of_mem name hy, lead⟩
  | case3 seen name todo new ih =>
    rw [closure, if_neg new] at hx
    rcases ih hx with hs | ⟨y, hy, lead⟩
    · rw [Std.ExtTreeSet.mem_insert, Std.compare_eq_iff_eq] at hs
      rcases hs with rfl | hs
      · exact .inr ⟨name, List.mem_cons_self, .refl⟩
      · exact .inl hs
    · rw [List.mem_append, mem_dependents] at hy
      rcases hy with edge | hy
      · exact .inr ⟨name, List.mem_cons_self, .head edge lead⟩
      · exact .inr ⟨y, List.mem_cons_of_mem name hy, lead⟩

/-- The closure contains every dependent of its members, provided that the dependents of `seen` are in
`seen` or in `todo`. -/
theorem closure_closed (v : g.Visit) (seen : NameSet) (todo : List String)
    (frontier : ∀ x ∈ seen, ∀ y, g.HasEdge x y → y ∈ seen ∨ y ∈ todo) {x y : String}
    (hx : x ∈ v.closure seen todo) (edge : g.HasEdge x y) : y ∈ v.closure seen todo := by
  induction seen, todo using closure.induct v with
  | case1 seen =>
    rw [closure] at hx ⊢
    exact (frontier x hx y edge).resolve_right List.not_mem_nil
  | case2 seen name todo old ih =>
    rw [closure, if_pos old] at hx ⊢
    refine ih (fun a ha b hab => ?_) hx
    rcases frontier a ha b hab with hb | hb
    · exact .inl hb
    · rcases List.mem_cons.mp hb with rfl | hb
      · exact .inl old
      · exact .inr hb
  | case3 seen name todo new ih =>
    rw [closure, if_neg new] at hx ⊢
    refine ih (fun a ha b hab => ?_) hx
    rw [Std.ExtTreeSet.mem_insert, Std.compare_eq_iff_eq] at ha ⊢
    rw [List.mem_append, mem_dependents]
    rcases ha with rfl | ha
    · exact .inr (.inl hab)
    · rcases frontier a ha b hab with hb | hb
      · exact .inl (.inr hb)
      · rcases List.mem_cons.mp hb with rfl | hb
        · exact .inl (.inl rfl)
        · exact .inr (.inr hb)

/-- For every visit, the closure of a name is the set of reachable names. -/
theorem mem_closure (v : g.Visit) (start x : String) : x ∈ v.closure ∅ [start] ↔ g.Leads start x := by
  constructor
  · intro hx
    rcases v.closure_sound ∅ [start] hx with hs | ⟨y, hy, lead⟩
    · exact absurd hs Std.ExtTreeSet.not_mem_empty
    · rwa [List.mem_singleton.mp hy] at lead
  · intro lead
    induction lead with
    | refl => exact v.subset_closure ∅ [start] (.inr List.mem_cons_self)
    | tail _ edge ih =>
      exact v.closure_closed ∅ [start] (fun u hu => absurd hu Std.ExtTreeSet.not_mem_empty) ih edge

end Visit

theorem mem_downstream (g : Graph) (start x : String) :
    x ∈ g.downstream start ↔ g.Leads start x := by
  rw [downstream, ← Visit.closure_sorted, Visit.mem_closure]

/-- Reachability from a name does not depend on the edges that enter it. -/
theorem leads_congr {g h : Graph} {start : String}
    (same : ∀ s t, t ≠ start → (g.HasEdge s t ↔ h.HasEdge s t)) {x : String} :
    g.Leads start x ↔ h.Leads start x := by
  have one (g h : Graph) (same : ∀ s t, t ≠ start → (g.HasEdge s t ↔ h.HasEdge s t))
      (lead : g.Leads start x) : h.Leads start x := by
    induction lead with
    | refl => exact .refl
    | @tail y z _ edge ih =>
      by_cases hz : z = start
      · rw [hz]
      · exact ih.tail ((same y z hz).mp edge)
  exact ⟨one g h same, one h g fun s t ht => (same s t ht).symm⟩

end Worksheet.Graph
