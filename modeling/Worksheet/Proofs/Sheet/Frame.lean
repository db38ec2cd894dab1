import Worksheet.Proofs.Sheet.Agreement
import Worksheet.Proofs.Sheet.Verdict

/-! The scope of an accepted edit. The affected cells are determined by the references before the edit
and equally by those after it. -/
namespace Worksheet.Sheet
open Relation
variable {s t : Sheet}

theorem Consistent.hasEdge_eq (hs : s.Consistent) : s.graph.HasEdge = Function.swap s.cells.RefersTo := by
  funext p n
  exact propext (hs.graph.hasEdge_iff.trans Cells.mem_references_iff_refersTo)

/-- Reachability in the graph is the reflexive and transitive closure of references between cells. -/
theorem Consistent.leads_iff_refersTo (hs : s.Consistent) {cell n : String} :
    s.graph.Leads cell n ↔ n = cell ∨ TransGen s.cells.RefersTo n cell := by
  rw [Graph.Leads, reflTransGen_iff_eq_or_transGen, hs.hasEdge_eq, transGen_swap]

/-- The complete effect of an accepted edit of `cell`: the affected names, the new contents, and
everything that remains unchanged. -/
structure Reaches (s t : Sheet) (cell : String) (contents : Contents) (names : NameSet) : Prop where
  mem_iff : ∀ n, n ∈ names ↔ n = cell ∨ TransGen s.cells.RefersTo n cell
  before : ∀ n, n ∈ names ↔ s.graph.Leads cell n
  after : ∀ n, n ∈ names ↔ t.graph.Leads cell n
  formula : ∀ n ∈ names, n ≠ cell →
    ∃ f, s.cells.contents n = .formula f ∧ t.cells.contents n = .formula f
  kept : ∀ n, n ∉ names → t.cells.get? n = s.cells.get? n
  edges : ∀ p n, n ≠ cell → (t.graph.HasEdge p n ↔ s.graph.HasEdge p n)
  edges_cell : ∀ p, t.graph.HasEdge p cell ↔ p ∈ contents.precedents
  entered : t.cells.contents cell = contents
  removed : t.cells.contains cell = false ↔ contents = .empty

/-- Every name reachable from a cell, other than the cell itself, holds a formula. -/
theorem Consistent.exists_formula (hs : s.Consistent) {cell n : String} (lead : s.graph.Leads cell n)
    (other : n ≠ cell) : ∃ f, s.cells.contents n = .formula f := by
  rcases ReflTransGen.cases_tail lead with same | ⟨p, _, edge⟩
  · exact absurd same other
  · rw [hs.hasEdge_eq] at edge
    obtain ⟨stored, f, get, formula, _⟩ := edge
    exact ⟨f, (Cells.contents_of_get? get).trans formula⟩

theorem Updated.reaches {cell : String} {contents : Contents} {order : List String}
    (h : s.Updated t cell contents order) (hs : s.Consistent) :
    s.Reaches t cell contents (Std.ExtTreeSet.ofList order) := by
  have after (n : String) : n ∈ (Std.ExtTreeSet.ofList order : NameSet) ↔ t.graph.Leads cell n :=
    NameSet.mem_ofList.trans (h.ordered.mem_iff n)
  have before (n : String) : n ∈ (Std.ExtTreeSet.ofList order : NameSet) ↔ s.graph.Leads cell n :=
    h.mem_iff hs
  have edge (p n : String) : t.graph.HasEdge p n ↔ p ∈ (t.cells.contents n).precedents :=
    h.graph.hasEdge_iff.trans Cells.mem_references
  refine ⟨fun n => (before n).trans hs.leads_iff_refersTo, before, after, ?_, ?_, ?_, ?_, ?_, ?_⟩
  · intro n hn other
    obtain ⟨f, formula⟩ := hs.exists_formula ((before n).mp hn) other
    exact ⟨f, formula, by rw [h.contents, if_neg other, formula]⟩
  · exact fun n hn => h.kept n (mt NameSet.mem_ofList.mpr hn)
  · intro p n other
    rw [edge, h.contents, if_neg other, hs.graph.hasEdge_iff, Cells.mem_references]
  · intro p
    rw [edge, h.contents, if_pos rfl]
  · rw [h.contents, if_pos rfl]
  · rw [h.contains, if_pos rfl, Bool.not_eq_false', Contents.isEmpty_iff]

/-- For every sheet reached by commands, an accepted edit stores the contents read from its text and
affects exactly the cell and its direct and indirect dependents. This set does not depend on the entered
text. -/
theorem run_enter_reaches (config : Config) (commands : List Command) (given raw : String) {names : NameSet} :
    let s := (Sheet.empty config).run commands
    (s.enter given raw).outcome = .ok names →
      (∃ contents, config.readEntry raw = .ok contents ∧
        s.Reaches (s.enter given raw).sheet (config.normalize given) contents names) ∧
      ∀ other names', (s.enter given other).outcome = .ok names' → names' = names := by
  intro s h
  have hs : s.Consistent := run_consistent config commands
  have same : s.config = config := run_config config commands
  have reaches {raw : String} {names : NameSet} (h : (s.enter given raw).outcome = .ok names) :
      ∃ contents, config.readEntry raw = .ok contents ∧
        s.Reaches (s.enter given raw).sheet (config.normalize given) contents names := by
    rcases hs.enter_cases given raw with ⟨_, _, he⟩ | ⟨contents, t, order, _, _, hr, he, updated⟩
    · rw [he] at h
      cases h
    · rw [same] at hr updated
      rw [he] at h ⊢
      cases h
      exact ⟨contents, hr, updated.reaches hs⟩
  refine ⟨reaches h, fun other names' h' => Std.ExtTreeSet.ext_mem fun {n} => ?_⟩
  obtain ⟨_, _, first⟩ := reaches h
  obtain ⟨_, _, second⟩ := reaches h'
  rw [first.mem_iff, second.mem_iff]

/-- The cell `C1` is affected directly and through `B1`; the emptied cell `A1` is removed. -/
theorem run_enter_reaches_emptied :
    let s := (Sheet.empty {}).run [.enter "B1" "=A1+1", .enter "C1" "=A1*B1", .enter "D1" "=E1",
      .enter "A1" "2"]
    let names : NameSet := .ofList ["A1", "B1", "C1"]
    (s.enter "a1" "").outcome = .ok names ∧ s.Reaches (s.enter "a1" "").sheet "A1" .empty names := by
  intro s names
  have accepted : (s.enter "a1" "").outcome = .ok names := by decide +kernel
  have name : Config.normalize {} "a1" = "A1" := by decide +kernel
  have read : Config.readEntry {} "" = .ok .empty := by decide +kernel
  obtain ⟨contents, hr, reaches⟩ := (run_enter_reaches {} _ "a1" "" accepted).1
  cases hr.symm.trans read
  exact ⟨accepted, name ▸ reaches⟩

end Worksheet.Sheet
