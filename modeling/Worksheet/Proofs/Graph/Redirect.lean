import Worksheet.Sheet.Edit
import Worksheet.Proofs.Graph.EvaluationOrder

/-! Replacing the precedents of a cell. The replacement is undone exactly if it closes a cycle. -/
namespace Worksheet.Graph
open Relation

variable {g rewired : Graph} {edges : Edges} {cell : String} {names : List String}
  {precedents : NameSet}

/-- Reachability from a cell does not depend on its own precedents. -/
theorem Represents.leads_redirect (hg : g.Represents edges)
    (hr : rewired.Represents (edges.redirect cell names)) {x : String} :
    rewired.Leads cell x ↔ g.Leads cell x := by
  apply leads_congr
  intro s t ht
  rw [hr.hasEdge_iff, hg.hasEdge_iff, Edges.mem_redirect, if_neg ht]

/-- Precedents that are not reachable from the cell preserve well-foundedness. Accessibility is shown
first for the names not reachable from the cell, then for the cell, then for the rest. -/
theorem Represents.wellFounded_redirect (hg : g.Represents edges)
    (hr : rewired.Represents (edges.redirect cell names)) (wf : WellFounded g.HasEdge)
    (free : ∀ p ∈ names, ¬ g.Leads cell p) : WellFounded rewired.HasEdge := by
  have old {s t : String} (ht : t ≠ cell) (edge : rewired.HasEdge s t) : g.HasEdge s t := by
    rw [hr.hasEdge_iff, Edges.mem_redirect, if_neg ht] at edge
    exact hg.hasEdge_iff.mpr edge
  have outside (x : String) : ¬ g.Leads cell x → Acc rewired.HasEdge x := by
    induction x using wf.induction with
    | _ x ih =>
      intro hx
      apply Acc.intro x
      intro p edge
      have edge := old (fun e => hx (e ▸ .refl)) edge
      exact ih p edge fun lead => hx (lead.tail edge)
  have target : Acc rewired.HasEdge cell := by
    apply Acc.intro cell
    intro p edge
    rw [hr.hasEdge_iff, Edges.mem_redirect, if_pos rfl] at edge
    exact outside p (free p edge)
  refine ⟨fun x => ?_⟩
  induction x using wf.induction with
  | _ x ih =>
    by_cases hx : x = cell
    · rwa [hx]
    · exact Acc.intro x fun p edge => ih p (old hx edge)

theorem Represents.cycle_redirect (hg : g.Represents edges)
    (hr : rewired.Represents (edges.redirect cell names)) {p : String} (hp : p ∈ names)
    (lead : g.Leads cell p) : TransGen rewired.HasEdge cell cell := by
  refine TransGen.tail' ((hg.leads_redirect hr).mpr lead) ?_
  rw [hr.hasEdge_iff, Edges.mem_redirect, if_pos rfl]
  exact hp

theorem run_replacePrecedents (hc : cell ≠ "") (hn : ∀ p ∈ names, p ≠ "") (g : Graph) :
    (replacePrecedents cell names).run g = (.ok (), g.withPrecedents cell names) :=
  Update.run_checked (List.forall_mem_cons.mpr ⟨hc, hn⟩) _ g

private theorem run_redirect_of_order {order : List String} (hc : cell ≠ "") (hn : ∀ p ∈ precedents.toList, p ≠ "")
    (ho : (g.withPrecedents cell precedents.toList).evaluationOrder cell = .ok order) :
    (redirect cell precedents).run g = (.ok (.ok order), g.withPrecedents cell precedents.toList) := by
  simp only [redirect, Update.run_bind, Update.run_get, Update.run_liftM, listPrecedents_eq_ok hc,
    run_replacePrecedents hc hn, ho, Update.run_pure]

private theorem run_redirect_of_fault {fault : Fault} (hc : cell ≠ "") (hn : ∀ p ∈ precedents.toList, p ≠ "")
    (hp : ∀ p ∈ (g.precedents cell).toList, p ≠ "")
    (ho : (g.withPrecedents cell precedents.toList).evaluationOrder cell = .error fault) :
    (redirect cell precedents).run g = (.ok (.error fault),
      (g.withPrecedents cell precedents.toList).withPrecedents cell (g.precedents cell).toList) := by
  simp only [redirect, Update.run_bind, Update.run_get, Update.run_liftM, listPrecedents_eq_ok hc,
    run_replacePrecedents hc hn, ho, run_replacePrecedents hc hp, Update.run_pure]

/-- If no new precedent is reachable from the cell, the replacement is kept and the edges remain
well-founded. -/
theorem Represents.redirect_of_free (hg : g.Represents edges) (wf : WellFounded g.HasEdge)
    (hc : cell ≠ "") (hn : ∀ p ∈ precedents, p ≠ "") (free : ∀ p ∈ precedents, ¬ g.Leads cell p) :
    ∃ rewired order, (redirect cell precedents).run g = (.ok (.ok order), rewired) ∧
      rewired.Represents (edges.redirect cell precedents.toList) ∧
      WellFounded rewired.HasEdge ∧ rewired.evaluationOrder cell = .ok order := by
  have hr := hg.withPrecedents cell precedents.toList
  have acyclic := hg.wellFounded_redirect hr wf fun p hp => free p (Std.ExtTreeSet.mem_toList.mp hp)
  obtain ⟨order, ho⟩ := evaluationOrder_of_wellFounded hr.mirrored hc acyclic
  have run := run_redirect_of_order hc (fun p hp => hn p (Std.ExtTreeSet.mem_toList.mp hp)) ho
  exact ⟨_, order, run, hr, acyclic, ho⟩

/-- If a new precedent is reachable from the cell, the previous graph is restored exactly. -/
theorem Represents.redirect_of_cycle (hg : g.Represents edges) (hc : cell ≠ "")
    (hn : ∀ p ∈ precedents, p ≠ "") (named : ∀ e ∈ edges, e.1 ≠ "") {p : String}
    (hp : p ∈ precedents) (lead : g.Leads cell p) :
    (redirect cell precedents).run g = (.ok (.error (.circular cell)), g) := by
  have hr := hg.withPrecedents cell precedents.toList
  have cycle := hg.cycle_redirect hr (Std.ExtTreeSet.mem_toList.mpr hp) lead
  have previous (s : String) : s ∈ (g.precedents cell).toList ↔ (s, cell) ∈ edges := by
    rw [Std.ExtTreeSet.mem_toList, hg.mem_precedents]
  have restored := hr.withPrecedents cell (g.precedents cell).toList
  rw [Edges.redirect_redirect previous] at restored
  rcases evaluationOrder_cases hr.mirrored hc with ⟨order, _, ho⟩ | ⟨ho, _⟩
  · exact absurd cycle (ho.acyclic ho.start_mem)
  · rw [run_redirect_of_fault hc (fun p hp => hn p (Std.ExtTreeSet.mem_toList.mp hp))
      (fun s hs => named (s, cell) ((previous s).mp hs)) ho, restored.unique hg]

end Worksheet.Graph
