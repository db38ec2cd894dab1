import Worksheet.Proofs.Cells
import Worksheet.Proofs.Graph.Redirect
import Worksheet.Proofs.Sheet.Config

/-! The invariant of sheets. An edit of a consistent sheet either restores it or completes with a
consistent result. -/
namespace Worksheet.Sheet

structure Consistent (s : Sheet) : Prop where
  graph : s.graph.Represents s.cells.references
  wellFounded : WellFounded s.graph.HasEdge
  named : ∀ n, s.cells.contains n = true → s.config.admits n = true
  admitted : ∀ n, ∀ p ∈ (s.cells.contents n).precedents, s.config.admits p = true
  settled : ∀ n, s.cells.value n = (s.cells.contents n).evaluate s.cells.number?

/-- The exact effect of an accepted edit with evaluation order `order`: the edited cell holds the new
contents, other contents and the cells outside the order are unchanged, and the cells of the order have
the values of their contents. -/
structure Updated (s t : Sheet) (cell : String) (new : Contents) (order : List String) : Prop where
  config : t.config = s.config
  changed : t.changed = true
  graph : t.graph.Represents t.cells.references
  wellFounded : WellFounded t.graph.HasEdge
  computed : t.graph.evaluationOrder cell = .ok order
  ordered : t.graph.IsEvaluationOrder cell order
  contents : ∀ n, t.cells.contents n = if n = cell then new else s.cells.contents n
  contains : ∀ n, t.cells.contains n = if n = cell then !new.isEmpty else s.cells.contains n
  kept : ∀ n, n ∉ order → t.cells.get? n = s.cells.get? n
  value : ∀ n ∈ order, t.cells.value n = (t.cells.contents n).evaluate t.cells.number?

namespace Updated
variable {s t : Sheet} {cell : String} {contents : Contents} {order : List String}

theorem consistent (h : s.Updated t cell contents order) (hs : s.Consistent)
    (valid : s.config.admits cell = true) (admitted : ∀ p ∈ contents.precedents, s.config.admits p = true) :
    t.Consistent := by
  refine ⟨h.graph, h.wellFounded, ?_, ?_, ?_⟩
  · intro n hn
    rw [h.config]
    rw [h.contains] at hn
    split at hn
    · next e => rwa [e]
    · exact hs.named n hn
  · intro n p hp
    rw [h.config]
    rw [h.contents] at hp
    split at hp
    · exact admitted p hp
    · exact hs.admitted n p hp
  · intro n
    by_cases hn : n ∈ order
    · exact h.value n hn
    · have other : n ≠ cell := fun e => hn (e ▸ h.ordered.start_mem)
      have read (p : String) (hp : p ∈ (t.cells.contents n).precedents) :
          t.cells.number? p = s.cells.number? p := by
        have outside : p ∉ order := fun hm => hn <| h.ordered.mem_of_edge hm <|
          h.graph.hasEdge_iff.mpr (Cells.mem_references.mpr hp)
        rw [Cells.number?, Cells.value, h.kept p outside]
        rfl
      rw [Contents.evaluate_congr read, h.contents, if_neg other, ← hs.settled n, Cells.value,
        h.kept n hn]
      rfl

end Updated

theorem contains_empty (config : Config) (n : String) : (Sheet.empty config).cells.contains n = false := by
  simp [Sheet.empty, Cells.empty, Cells.contains, Cells.get?]

theorem contents_empty (config : Config) (n : String) : (Sheet.empty config).cells.contents n = .empty :=
  Cells.contents_of_not_contains (contains_empty config n)

namespace Consistent
variable {s : Sheet} {given raw cell : String} {contents : Contents}

theorem empty (config : Config) : (Sheet.empty config).Consistent := by
  refine ⟨?_, ⟨?_⟩, ?_, ?_, ?_⟩
  · have edges : (Sheet.empty config).cells.references = ∅ := by
      refine Finset.eq_empty_of_forall_notMem ?_
      rintro ⟨p, n⟩ he
      rw [Cells.mem_references, contents_empty] at he
      exact Std.ExtTreeSet.not_mem_empty he
    rw [edges]
    exact Graph.Represents.empty
  · intro n
    exact Acc.intro n fun p edge => absurd (Graph.Represents.empty.hasEdge_iff.mp edge) (Finset.notMem_empty _)
  · intro n hn
    cases (contains_empty config n).symm.trans hn
  · intro n p hp
    rw [contents_empty] at hp
    exact absurd hp Std.ExtTreeSet.not_mem_empty
  · intro n
    rw [contents_empty, Cells.value_of_not_contains (contains_empty config n)]
    rfl

theorem references_named (hs : s.Consistent) : ∀ e ∈ s.cells.references, e.1 ≠ "" := by
  rintro ⟨p, n⟩ he
  exact Config.ne_empty_of_admits (hs.admitted n p (Cells.mem_references.mp he))

/-- Storing and recalculating succeed after the references have been redirected. -/
theorem commit_spec (hs : s.Consistent) (valid : s.config.admits cell = true) {g : Graph}
    {order : List String} (hg : g.Represents (s.cells.references.redirect cell contents.precedents.toList))
    (wf : WellFounded g.HasEdge) (computed : g.evaluationOrder cell = .ok order) :
    ∃ cells, (Cells.commit cell contents order).run s.cells = (.ok (cells.evaluations order), cells) ∧
      s.Updated ⟨s.config, g, cells, true⟩ cell contents order := by
  have hc := Config.ne_empty_of_admits valid
  have ho := Graph.isEvaluationOrder_of_ok hg.mirrored hc computed
  obtain ⟨entered, he, hget⟩ := s.cells.store_spec hc contents
  rw [← Cells.references_store he hc] at hg
  have edge {p n : String} : g.HasEdge p n ↔ p ∈ (entered.contents n).precedents :=
    hg.hasEdge_iff.trans Cells.mem_references
  have contains (n : String) :
      entered.contains n = if n = cell then !contents.isEmpty else s.cells.contains n := by
    rw [Cells.contains, hget]
    by_cases hn : n = cell
    · rw [if_pos hn, if_pos hn]
      cases contents.isEmpty <;> rfl
    · rw [if_neg hn, if_neg hn]
      rfl
  have named (n : String) (hn : entered.contains n = true) : n ≠ "" := by
    rw [contains] at hn
    split at hn
    · next h => rwa [h]
    · exact Config.ne_empty_of_admits (hs.named n hn)
  obtain ⟨cells, hr, ht⟩ := Cells.recalculate_spec named ho.nodup
    (ho.forward.imp fun h => mt edge.mpr h) fun n hn => mt edge.mpr (ho.irrefl n hn)
  have same : cells.contents = entered.contents := funext ht.contents
  refine ⟨cells, ?_, rfl, rfl, ?_, wf, computed, ho, ?_, ?_, ?_, ?_⟩
  · rw [Cells.commit, Update.run_bind, he]
    exact hr
  · have : cells.references = entered.references := by
      ext ⟨p, n⟩
      rw [Cells.mem_references, Cells.mem_references, same]
    rwa [this]
  · intro n
    rw [ht.contents, Cells.contents_store he hc]
  · intro n
    rw [ht.contains, contains]
  · intro n hn
    have other : n ≠ cell := fun e => hn (e ▸ ho.start_mem)
    rw [ht.kept n hn, hget, if_neg other]
  · intro n hn
    rw [ht.value n hn, ht.contents]

theorem enter_of_free (hs : s.Consistent) (hc : s.config.cellName given = .ok cell)
    (hr : s.config.readEntry raw = .ok contents) (free : ∀ p ∈ contents.precedents, ¬ s.graph.Leads cell p) :
    ∃ t order, s.enter given raw = ⟨.ok (Std.ExtTreeSet.ofList order), t,
        t.cells.evaluations order ++ [.recalculated cell order.length]⟩ ∧
      s.Updated t cell contents order := by
  obtain ⟨_, valid, rfl⟩ := Config.cellName_eq_ok.mp hc
  obtain ⟨g, order, he, hg, wf, computed⟩ := hs.graph.redirect_of_free hs.wellFounded
    (Config.ne_empty_of_admits valid) (fun p hp => Config.ne_empty_of_admits (Config.readEntry_admits hr p hp))
    free
  obtain ⟨cells, ht, updated⟩ := hs.commit_spec valid hg wf computed
  refine ⟨_, order, ?_, updated⟩
  simp only [enter, hc, hr, he, ht]

theorem enter_of_cycle (hs : s.Consistent) (hc : s.config.cellName given = .ok cell)
    (hr : s.config.readEntry raw = .ok contents) {p : String} (hp : p ∈ contents.precedents)
    (lead : s.graph.Leads cell p) :
    s.enter given raw = ⟨.error (.circular cell), s, [.refusedContents cell (.circular cell)]⟩ := by
  obtain ⟨_, valid, rfl⟩ := Config.cellName_eq_ok.mp hc
  have he := hs.graph.redirect_of_cycle (Config.ne_empty_of_admits valid)
    (fun p hp => Config.ne_empty_of_admits (Config.readEntry_admits hr p hp)) hs.references_named hp lead
  simp only [enter, hc, hr, he]

end Consistent
end Worksheet.Sheet
