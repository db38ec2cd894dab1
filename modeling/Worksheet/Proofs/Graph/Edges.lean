import Worksheet.Graph.Basic
import Worksheet.Proofs.Update
import Mathlib.Data.Finset.Card
import Mathlib.Data.Finset.Image

/-! Refinement of graphs by finite sets of edges. A graph is determined by the set that it represents. -/
namespace Worksheet

/-- Sets of pairs of a precedent and a dependent. -/
abbrev Edges := Finset (String × String)

/-- The edges after replacing the precedents of `t`. -/
def Edges.redirect (edges : Edges) (t : String) (names : List String) : Edges :=
  edges.filter (fun e => e.2 ≠ t) ∪ (names.map fun s => (s, t)).toFinset

theorem Edges.mem_redirect {edges : Edges} {t : String} {names : List String} {s x : String} :
    (s, x) ∈ edges.redirect t names ↔ if x = t then s ∈ names else (s, x) ∈ edges := by
  rw [redirect, Finset.mem_union, Finset.mem_filter, List.mem_toFinset, List.mem_map]
  by_cases hx : x = t <;> simp [hx, eq_comm]

/-- Restoring the previous precedents recovers the edges. -/
theorem Edges.redirect_redirect {edges : Edges} {t : String} {names previous : List String}
    (h : ∀ s, s ∈ previous ↔ (s, t) ∈ edges) : (edges.redirect t names).redirect t previous = edges := by
  ext ⟨s, x⟩
  rw [mem_redirect, mem_redirect]
  split
  · next hx => rw [hx, h]
  · rfl

theorem Edges.mem_leaving (edges : Edges) {s : String} {ts : List String} (h : ∀ t, t ∈ ts ↔ (s, t) ∈ edges)
    (e : String × String) : e ∈ ts.map (fun t => (s, t)) ↔ e ∈ edges ∧ ¬ e.1 ≠ s := by
  obtain ⟨x, y⟩ := e
  rw [List.mem_map, not_not]
  simp only [h, Prod.mk.injEq]
  constructor
  · rintro ⟨t, mem, rfl, rfl⟩
    exact ⟨mem, rfl⟩
  · rintro ⟨mem, rfl⟩
    exact ⟨y, mem, rfl, rfl⟩

theorem Edges.mem_entering (edges : Edges) {t : String} {ss : List String} (h : ∀ s, s ∈ ss ↔ (s, t) ∈ edges)
    (e : String × String) : e ∈ ss.map (fun s => (s, t)) ↔ e ∈ edges ∧ ¬ e.2 ≠ t := by
  obtain ⟨x, y⟩ := e
  rw [List.mem_map, not_not]
  simp only [h, Prod.mk.injEq]
  constructor
  · rintro ⟨s, mem, rfl, rfl⟩
    exact ⟨mem, rfl⟩
  · rintro ⟨mem, rfl⟩
    exact ⟨x, mem, rfl, rfl⟩

namespace Node

@[simp] theorem mem_dependents_addDependent (n : Node) (t x : String) :
    x ∈ (n.addDependent t).dependents ↔ t = x ∨ x ∈ n.dependents := by
  simp [addDependent, Std.ExtTreeSet.mem_insert]

@[simp] theorem mem_precedents_addPrecedent (n : Node) (s x : String) :
    x ∈ (n.addPrecedent s).precedents ↔ s = x ∨ x ∈ n.precedents := by
  simp [addPrecedent, Std.ExtTreeSet.mem_insert]

@[simp] theorem mem_dependents_removeDependent (n : Node) (t x : String) :
    x ∈ (n.removeDependent t).dependents ↔ t ≠ x ∧ x ∈ n.dependents := by
  simp [removeDependent, Std.ExtTreeSet.mem_erase]

@[simp] theorem mem_precedents_removePrecedent (n : Node) (s x : String) :
    x ∈ (n.removePrecedent s).precedents ↔ s ≠ x ∧ x ∈ n.precedents := by
  simp [removePrecedent, Std.ExtTreeSet.mem_erase]

@[simp] theorem precedents_addDependent (n : Node) (t : String) :
    (n.addDependent t).precedents = n.precedents := rfl

@[simp] theorem dependents_addPrecedent (n : Node) (s : String) :
    (n.addPrecedent s).dependents = n.dependents := rfl

@[simp] theorem precedents_removeDependent (n : Node) (t : String) :
    (n.removeDependent t).precedents = n.precedents := rfl

@[simp] theorem dependents_removePrecedent (n : Node) (s : String) :
    (n.removePrecedent s).dependents = n.dependents := rfl

theorem isBare_iff (n : Node) : n.isBare = true ↔ n = .empty := by
  rw [isBare, Bool.and_eq_true, Std.ExtTreeSet.isEmpty_iff, Std.ExtTreeSet.isEmpty_iff]
  cases n
  simp [empty]

theorem empty_removeDependent (t : String) : empty.removeDependent t = empty := by
  simp [empty, removeDependent]

theorem empty_removePrecedent (s : String) : empty.removePrecedent s = empty := by
  simp [empty, removePrecedent]

theorem eq_empty {n : Node} (dependents : ∀ x, x ∉ n.dependents) (precedents : ∀ x, x ∉ n.precedents) :
    n = empty := by
  obtain ⟨d, p⟩ := n
  have hd : d = ∅ := Std.ExtTreeSet.ext_mem fun x => by simpa using dependents x
  have hp : p = ∅ := Std.ExtTreeSet.ext_mem fun x => by simpa using precedents x
  rw [hd, hp]
  rfl

end Node

namespace Graph

theorem node_eq_empty {g : Graph} {name : String} (h : g.contains name = false) :
    g.node name = .empty := by
  rw [contains, ← Bool.not_eq_true, ← Std.ExtTreeMap.mem_iff_contains] at h
  rw [node, Std.ExtTreeMap.getElem?_eq_none h]
  rfl

theorem listDependents_eq_ok {s : String} (named : s ≠ "") (g : Graph) :
    g.listDependents s = .ok (g.dependents s) := by
  rw [listDependents, Fault.checkIdentifier_eq_ok named]
  rfl

theorem listPrecedents_eq_ok {t : String} (named : t ≠ "") (g : Graph) :
    g.listPrecedents t = .ok (g.precedents t) := by
  rw [listPrecedents, Fault.checkIdentifier_eq_ok named]
  rfl

theorem getElem?_nodes (g : Graph) (name : String) :
    g.nodes[name]? = if g.contains name then some (g.node name) else none := by
  rw [contains, node]
  cases h : g.nodes[name]? with
  | none => simp [Std.ExtTreeMap.contains_eq_isSome_getElem?, h]
  | some n => simp [Std.ExtTreeMap.contains_eq_isSome_getElem?, h]

/-- A graph is determined by its nodes and its edge count. -/
theorem ext_node {g h : Graph} (contains : ∀ name, g.contains name = h.contains name)
    (node : ∀ name, g.node name = h.node name) (count : g.edgeCount = h.edgeCount) : g = h := by
  have nodes : g.nodes = h.nodes := Std.ExtTreeMap.ext_getElem? fun name => by
    rw [getElem?_nodes, getElem?_nodes, contains, node]
  cases g
  cases h
  simp_all

private theorem node_alter (nodes : Std.ExtTreeMap String Node) (count count' : Nat) (s : String)
    (f : Node → Node) (x : String) :
    (⟨nodes.alter s fun n => some (f (n.getD .empty)), count⟩ : Graph).node x =
      if s = x then f ((⟨nodes, count'⟩ : Graph).node x) else (⟨nodes, count'⟩ : Graph).node x := by
  simp only [node, Std.ExtTreeMap.getElem?_alter, Std.compare_eq_iff_eq]
  split
  · next h => rw [h, Option.getD_some]
  · rfl

private theorem node_modify (nodes : Std.ExtTreeMap String Node) (count count' : Nat) (s : String)
    {f : Node → Node} (hf : f .empty = .empty) (x : String) :
    (⟨nodes.modify s f, count⟩ : Graph).node x =
      if s = x then f ((⟨nodes, count'⟩ : Graph).node x) else (⟨nodes, count'⟩ : Graph).node x := by
  simp only [node, Std.ExtTreeMap.getElem?_modify, Std.compare_eq_iff_eq]
  split
  · next h =>
    rw [h]
    cases nodes[x]? with
    | none => exact hf.symm
    | some n => rfl
  · rfl

theorem node_dropIsolated (g : Graph) (name x : String) :
    (g.dropIsolated name).node x = g.node x := by
  rw [dropIsolated]
  split
  · next bare =>
    simp only [node, Std.ExtTreeMap.getElem?_erase, Std.compare_eq_iff_eq]
    split
    · next h =>
      obtain ⟨n, found, hn⟩ := (Option.any_eq_true _ _).mp bare
      rw [← h, found, Option.getD_none, Option.getD_some, (Node.isBare_iff n).mp hn]
    · rfl
  · rfl

theorem node_insert {g : Graph} {s t : String} (new : t ∉ g.dependents s) (x : String) :
    (g.insert s t).node x =
      let n := if s = x then (g.node x).addDependent t else g.node x
      if t = x then n.addPrecedent s else n := by
  rw [insert, if_neg new]
  rw [node_alter _ _ 0 t (·.addPrecedent s), node_alter _ _ g.edgeCount s (·.addDependent t)]

theorem node_erase {g : Graph} {s t : String} (old : t ∈ g.dependents s) (x : String) :
    (g.erase s t).node x =
      let n := if s = x then (g.node x).removeDependent t else g.node x
      if t = x then n.removePrecedent s else n := by
  rw [erase, if_pos old]
  simp only [node_dropIsolated]
  rw [node_modify _ _ 0 t (Node.empty_removePrecedent s),
    node_modify _ _ g.edgeCount s (Node.empty_removeDependent t)]

theorem mem_dependents_insert (g : Graph) (s t x y : String) :
    y ∈ (g.insert s t).dependents x ↔ (x, y) = (s, t) ∨ y ∈ g.dependents x := by
  by_cases old : t ∈ g.dependents s
  · rw [insert, if_pos old]
    refine ⟨.inr, ?_⟩
    rintro (h | h)
    · cases h
      exact old
    · exact h
  · rw [dependents, node_insert old]
    by_cases hs : s = x <;> by_cases ht : t = x <;> simp [hs, ht, dependents, eq_comm]

theorem contains_insert {g : Graph} {s t : String} (new : t ∉ g.dependents s) (x : String) :
    (g.insert s t).contains x = true ↔ s = x ∨ t = x ∨ g.contains x = true := by
  rw [insert, if_neg new]
  simp only [contains, Std.ExtTreeMap.contains_alter, Std.compare_eq_iff_eq]
  by_cases hs : s = x <;> by_cases ht : t = x <;> simp [hs, ht]

theorem contains_dropIsolated (g : Graph) (name x : String) :
    (g.dropIsolated name).contains x = true ↔
      g.contains x = true ∧ ¬ (name = x ∧ g.node x = .empty) := by
  have bare : (g.nodes[name]?).any Node.isBare = true ↔ g.contains name = true ∧ g.node name = .empty := by
    rw [getElem?_nodes]
    split
    · next h => simp [h, Node.isBare_iff]
    · next h => simp [h]
  rw [dropIsolated]
  split
  · next h =>
    obtain ⟨_, hn⟩ := bare.mp h
    simp only [contains, Std.ExtTreeMap.contains_erase, Bool.and_eq_true, bne_iff_ne, ne_eq,
      Std.compare_eq_iff_eq]
    constructor
    · rintro ⟨ne, hx⟩
      exact ⟨hx, fun h => ne h.1⟩
    · rintro ⟨hx, hne⟩
      exact ⟨fun h => hne ⟨h, h ▸ hn⟩, hx⟩
  · next h =>
    constructor
    · intro hx
      refine ⟨hx, ?_⟩
      rintro ⟨rfl, hn⟩
      exact h (bare.mpr ⟨hx, hn⟩)
    · exact And.left

theorem contains_erase {g : Graph} {s t : String} (old : t ∈ g.dependents s) (x : String) :
    (g.erase s t).contains x = true ↔
      g.contains x = true ∧ ¬ ((s = x ∨ t = x) ∧ (g.erase s t).node x = .empty) := by
  have modified (f : Node → Node) (h : Node → Node) :
      ((g.nodes.modify s f).modify t h).contains x = g.nodes.contains x := by
    simp [Std.ExtTreeMap.contains_modify]
  have kept : (g.erase s t).node x = (⟨(g.nodes.modify s (·.removeDependent t)).modify t
      (·.removePrecedent s), g.edgeCount - 1⟩ : Graph).node x := by
    rw [erase, if_pos old, node_dropIsolated, node_dropIsolated]
  rw [kept, erase, if_pos old, contains_dropIsolated, contains_dropIsolated, node_dropIsolated,
    contains, modified, contains]
  tauto

theorem edgeCount_dropIsolated (g : Graph) (name : String) :
    (g.dropIsolated name).edgeCount = g.edgeCount := by
  rw [dropIsolated]
  split <;> rfl

def insertAll (g : Graph) (pairs : List (String × String)) : Graph := pairs.foldl (fun g e => g.insert e.1 e.2) g

def eraseAll (g : Graph) (pairs : List (String × String)) : Graph := pairs.foldl (fun g e => g.erase e.1 e.2) g

/-- The graph records exactly the given edges at both ends, has exactly their end nodes, and counts
them. -/
structure Represents (g : Graph) (edges : Edges) : Prop where
  mem_dependents : ∀ s t, t ∈ g.dependents s ↔ (s, t) ∈ edges
  mem_precedents : ∀ s t, s ∈ g.precedents t ↔ (s, t) ∈ edges
  contains_iff : ∀ name, g.contains name = true ↔ ∃ e ∈ edges, e.1 = name ∨ e.2 = name
  count : g.edgeCount = edges.card

namespace Represents
variable {g h : Graph} {edges : Edges}

theorem node_eq_empty_iff (hd : ∀ s t, t ∈ g.dependents s ↔ (s, t) ∈ edges)
    (hp : ∀ s t, s ∈ g.precedents t ↔ (s, t) ∈ edges) (name : String) :
    g.node name = .empty ↔ ¬ ∃ e ∈ edges, e.1 = name ∨ e.2 = name := by
  constructor
  · rintro he ⟨⟨s, t⟩, mem, rfl | rfl⟩
    · have := (hd s t).mpr mem
      simp [dependents, he, Node.empty] at this
    · have := (hp s t).mpr mem
      simp [precedents, he, Node.empty] at this
  · intro none
    refine Node.eq_empty (fun t ht => none ?_) (fun s hs => none ?_)
    · exact ⟨(name, t), (hd name t).mp ht, .inl rfl⟩
    · exact ⟨(s, name), (hp s name).mp hs, .inr rfl⟩

/-- `Represents` follows from the membership conditions, the count, and the absence of nodes without
edges. -/
theorem of_noBare (hd : ∀ s t, t ∈ g.dependents s ↔ (s, t) ∈ edges)
    (hp : ∀ s t, s ∈ g.precedents t ↔ (s, t) ∈ edges)
    (bare : ∀ name, g.contains name = true → g.node name ≠ .empty)
    (count : g.edgeCount = edges.card) : g.Represents edges := by
  refine ⟨hd, hp, fun name => ⟨?_, ?_⟩, count⟩
  · intro hc
    exact not_not.mp (mt (node_eq_empty_iff hd hp name).mpr (bare name hc))
  · intro he
    by_contra hc
    exact (node_eq_empty_iff hd hp name).mp (node_eq_empty (Bool.not_eq_true _ ▸ hc)) he

theorem node_ne_empty (hg : g.Represents edges) {name : String} (h : g.contains name = true) :
    g.node name ≠ .empty := fun he =>
  (node_eq_empty_iff hg.mem_dependents hg.mem_precedents name).mp he ((hg.contains_iff name).mp h)

theorem unique (hg : g.Represents edges) (hh : h.Represents edges) : g = h := by
  refine ext_node (fun name => ?_) (fun name => ?_) (hg.count.trans hh.count.symm)
  · rw [Bool.eq_iff_iff, hg.contains_iff, hh.contains_iff]
  · have hd : (g.node name).dependents = (h.node name).dependents :=
      Std.ExtTreeSet.ext_mem fun t => (hg.mem_dependents name t).trans (hh.mem_dependents name t).symm
    have hp : (g.node name).precedents = (h.node name).precedents :=
      Std.ExtTreeSet.ext_mem fun s => (hg.mem_precedents s name).trans (hh.mem_precedents s name).symm
    cases hn : g.node name
    cases hm : h.node name
    rw [hn, hm] at hd hp
    simp_all

theorem empty : Graph.empty.Represents ∅ := by
  refine ⟨?_, ?_, ?_, rfl⟩
  · intro s t
    simp [dependents, node, Graph.empty, Node.empty]
  · intro s t
    simp [precedents, node, Graph.empty, Node.empty]
  · intro name
    simp [contains, Graph.empty]

theorem insert (hg : g.Represents edges) (s t : String) :
    (g.insert s t).Represents (Insert.insert (s, t) edges) := by
  by_cases old : t ∈ g.dependents s
  · rwa [Graph.insert, if_pos old, Finset.insert_eq_of_mem ((hg.mem_dependents s t).mp old)]
  · have hd (x y : String) : y ∈ (g.insert s t).dependents x ↔ (x, y) ∈ Insert.insert (s, t) edges := by
      rw [mem_dependents_insert, Finset.mem_insert, hg.mem_dependents]
    have hp (x y : String) : x ∈ (g.insert s t).precedents y ↔ (x, y) ∈ Insert.insert (s, t) edges := by
      rw [Finset.mem_insert, ← hg.mem_precedents, Graph.precedents, node_insert old]
      by_cases hs : s = y <;> by_cases ht : t = y <;> simp [hs, ht, Graph.precedents, eq_comm]
    refine of_noBare hd hp (fun name hc => ?_) ?_
    · have ends : s = name ∨ t = name → (g.insert s t).node name ≠ .empty := fun h he =>
        (node_eq_empty_iff hd hp name).mp he ⟨(s, t), Finset.mem_insert_self _ _, h⟩
      rcases (contains_insert old name).mp hc with hs | ht | hc
      · exact ends (.inl hs)
      · exact ends (.inr ht)
      · intro he
        refine hg.node_ne_empty hc ((node_eq_empty_iff hg.mem_dependents hg.mem_precedents name).mpr ?_)
        rintro ⟨e, he', hn⟩
        exact (node_eq_empty_iff hd hp name).mp he ⟨e, Finset.mem_insert_of_mem he', hn⟩
    · rw [Graph.insert, if_neg old, Finset.card_insert_of_notMem, hg.count]
      exact fun h => old ((hg.mem_dependents s t).mpr h)

theorem erase (hg : g.Represents edges) (s t : String) :
    (g.erase s t).Represents (edges.erase (s, t)) := by
  by_cases old : t ∈ g.dependents s
  · have mem := (hg.mem_dependents s t).mp old
    have hd (x y : String) : y ∈ (g.erase s t).dependents x ↔ (x, y) ∈ edges.erase (s, t) := by
      rw [Finset.mem_erase, ← hg.mem_dependents, Graph.dependents, node_erase old]
      by_cases hs : s = x <;> by_cases ht : t = x <;> simp [hs, ht, Graph.dependents, eq_comm]
    have hp (x y : String) : x ∈ (g.erase s t).precedents y ↔ (x, y) ∈ edges.erase (s, t) := by
      rw [Finset.mem_erase, ← hg.mem_precedents, Graph.precedents, node_erase old]
      by_cases hs : s = y <;> by_cases ht : t = y <;> simp [hs, ht, Graph.precedents, eq_comm]
    refine of_noBare hd hp (fun name hc he => ?_) ?_
    · obtain ⟨hc, ends⟩ := (contains_erase old name).mp hc
      refine ends ⟨?_, he⟩
      by_contra other
      have same : (g.erase s t).node name = g.node name := by
        rw [node_erase old]
        simp_all
      exact hg.node_ne_empty hc (same ▸ he)
    · rw [Graph.erase, if_pos old, edgeCount_dropIsolated, edgeCount_dropIsolated,
        Finset.card_erase_of_mem mem, hg.count]
  · rwa [Graph.erase, if_neg old, Finset.erase_eq_of_notMem]
    exact fun h => old ((hg.mem_dependents s t).mpr h)

theorem insertAll (hg : g.Represents edges) (pairs : List (String × String)) :
    (g.insertAll pairs).Represents (edges ∪ pairs.toFinset) := by
  induction pairs generalizing g edges with
  | nil => rwa [List.toFinset_nil, Finset.union_empty]
  | cons e pairs ih =>
    have := ih (hg.insert e.1 e.2)
    rwa [Finset.insert_union, ← Finset.union_insert, ← List.toFinset_cons] at this

theorem eraseAll (hg : g.Represents edges) (pairs : List (String × String)) :
    (g.eraseAll pairs).Represents (edges \ pairs.toFinset) := by
  induction pairs generalizing g edges with
  | nil => rwa [List.toFinset_nil, Finset.sdiff_empty]
  | cons e pairs ih =>
    have := ih (hg.erase e.1 e.2)
    rwa [Finset.erase_sdiff_comm, ← Finset.sdiff_insert, ← List.toFinset_cons] at this

/-- Erasing all edges outside `keep` and then inserting the pairs of a list. -/
theorem replace (hg : g.Represents edges) {keep : String × String → Prop} [DecidablePred keep]
    {old : List (String × String)} (h : ∀ e, e ∈ old ↔ e ∈ edges ∧ ¬ keep e) (new : List (String × String)) :
    ((g.eraseAll old).insertAll new).Represents (edges.filter keep ∪ new.toFinset) := by
  have left : edges \ old.toFinset = edges.filter keep := by
    ext e
    rw [Finset.mem_sdiff, Finset.mem_filter, List.mem_toFinset, h]
    tauto
  have cleared := hg.eraseAll old
  rw [left] at cleared
  exact cleared.insertAll new

theorem withDependents (hg : g.Represents edges) (s : String) (names : List String) :
    (g.withDependents s names).Represents
      (edges.filter (fun e => e.1 ≠ s) ∪ (names.map fun t => (s, t)).toFinset) := by
  have old := edges.mem_leaving fun t => Std.ExtTreeSet.mem_toList.trans (hg.mem_dependents s t)
  have rewired := hg.replace old (names.map fun t => (s, t))
  rwa [Graph.eraseAll, Graph.insertAll, List.foldl_map, List.foldl_map] at rewired

theorem withPrecedents (hg : g.Represents edges) (t : String) (names : List String) :
    (g.withPrecedents t names).Represents (edges.redirect t names) := by
  have old := edges.mem_entering fun s => Std.ExtTreeSet.mem_toList.trans (hg.mem_precedents s t)
  have rewired := hg.replace old (names.map fun s => (s, t))
  rwa [Graph.eraseAll, Graph.insertAll, List.foldl_map, List.foldl_map] at rewired

end Represents
end Graph
end Worksheet
