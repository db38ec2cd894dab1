import Worksheet.Proofs.Sheet.Run
import Mathlib.Algebra.Ring.Nat

/-! Agreement of graph and cells in every reachable sheet: the edges are the references of the stored
formulas, each counted once, and there are no cycles. -/
namespace Worksheet
open Relation

namespace Cells

/-- The stored cell `t` holds a formula with the variable `p`. -/
def RefersTo (s : Cells) (t p : String) : Prop :=
  ∃ cell f, s.get? t = some cell ∧ cell.contents = .formula f ∧ p ∈ f.variableNames

/-- The stored formulas, in the order of the names. -/
def formulas (s : Cells) : List Formula := s.byName.toList.filterMap fun c => c.2.contents.formula?

theorem mem_references_iff_refersTo {s : Cells} {p t : String} :
    (p, t) ∈ s.references ↔ s.RefersTo t p := by
  rw [mem_references, mem_precedents_contents]
  constructor
  · intro h
    obtain ⟨cell, hc, hp⟩ := h
    obtain ⟨f, hf, mem⟩ := Contents.mem_precedents.mp hp
    exact ⟨cell, f, hc, hf, mem⟩
  · intro h
    obtain ⟨cell, f, hc, hf, mem⟩ := h
    exact ⟨cell, hc, Contents.mem_precedents.mpr ⟨f, hf, mem⟩⟩

theorem refersTo_iff {s : Cells} {n p : String} : s.RefersTo n p ↔ p ∈ (s.contents n).precedents :=
  mem_references_iff_refersTo.symm.trans mem_references

theorem nodup_references (s : Cells) :
    (s.byName.toList.flatMap fun c => c.2.contents.precedents.toList.map fun p => (p, c.1)).Nodup := by
  refine List.nodup_flatMap.mpr ⟨fun c _ => ?_, ?_⟩
  · exact (NameSet.nodup_toList _).map fun p q h => congrArg Prod.fst h
  · refine s.byName.distinct_keys_toList.imp fun {c d} apart => ?_
    rw [Std.compare_eq_iff_eq] at apart
    intro e hc hd
    obtain ⟨_, _, rfl⟩ := List.mem_map.mp hc
    obtain ⟨_, _, same⟩ := List.mem_map.mp hd
    exact apart (congrArg Prod.snd same).symm

theorem card_references (s : Cells) : s.references.card =
    (s.formulas.map fun f => f.variableNames.size).sum := by
  rw [formulas, references, List.toFinset_card_of_nodup s.nodup_references, List.length_flatMap]
  induction s.byName.toList with
  | nil => rfl
  | cons c cs ih =>
    rw [List.map_cons, List.sum_cons, ih, List.length_map, Std.ExtTreeSet.length_toList,
      List.filterMap_cons]
    cases c.2.contents with
    | formula f => rfl
    | number _ | text _ => exact Nat.zero_add _

end Cells

/-- For every sheet reached by commands: the lists of dependents and precedents are given by the
references of the stored formulas, no name depends on itself, the edge count is the sum of the numbers of
distinct variables, and the nodes are the ends of references. -/
theorem Sheet.run_graph_agrees (config : Config) (commands : List Command) :
    let s := (Sheet.empty config).run commands
    (∀ p t, t ∈ s.graph.dependents p ↔ s.cells.RefersTo t p) ∧
    (∀ p t, p ∈ s.graph.precedents t ↔ s.cells.RefersTo t p) ∧
    (∀ name, ¬ TransGen s.graph.HasEdge name name) ∧
    s.graph.edgeCount = (s.cells.formulas.map fun f => f.variableNames.size).sum ∧
    ∀ name, s.graph.contains name = true ↔
      (∃ p, s.cells.RefersTo name p) ∨ ∃ t, s.cells.RefersTo t name := by
  intro s
  have hs := run_consistent config commands
  refine ⟨?_, ?_, ?_, ?_, ?_⟩
  · intro p t
    rw [hs.graph.mem_dependents, Cells.mem_references_iff_refersTo]
  · intro p t
    rw [hs.graph.mem_precedents, Cells.mem_references_iff_refersTo]
  · intro name
    exact hs.wellFounded.transGen.irrefl.irrefl name
  · rw [hs.graph.count, Cells.card_references]
  · intro name
    rw [hs.graph.contains_iff]
    constructor
    · rintro ⟨⟨p, t⟩, he, rfl | rfl⟩
      · exact .inr ⟨t, Cells.mem_references_iff_refersTo.mp he⟩
      · exact .inl ⟨p, Cells.mem_references_iff_refersTo.mp he⟩
    · rintro (⟨p, h⟩ | ⟨t, h⟩)
      · exact ⟨(p, name), Cells.mem_references_iff_refersTo.mpr h, .inr rfl⟩
      · exact ⟨(name, t), Cells.mem_references_iff_refersTo.mpr h, .inl rfl⟩

end Worksheet
