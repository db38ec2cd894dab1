import Worksheet.Proofs.Graph.Edges

/-! Sequences of operations on a graph, compared with the same operations on a finite set of edges.
Operations that lack an identifier leave both unchanged. -/
namespace Worksheet

namespace Graph

inductive Operation
  | add (s t : String)
  | remove (s t : String)
  | setDependents (s : String) (names : List String)
  | setPrecedents (t : String) (names : List String)
  | clear

namespace Operation

def identifiers : Operation → List String
  | add s t | remove s t => [s, t]
  | setDependents name names | setPrecedents name names => name :: names
  | clear => []

def update : Operation → Update Graph Unit
  | add s t => addEdge s t
  | remove s t => removeEdge s t
  | setDependents s names => replaceDependents s names
  | setPrecedents t names => replacePrecedents t names
  | clear => set Graph.empty

def attempt (g : Graph) : Operation → Except Fault Graph
  | add s t => g.add s t
  | remove s t => g.remove s t
  | setDependents s names => g.setDependents s names
  | setPrecedents t names => g.setPrecedents t names
  | clear => .ok .empty

/-- The change made by an operation once its identifiers are checked. -/
def effect : Operation → Graph → Graph
  | add s t, g => g.insert s t
  | remove s t, g => g.erase s t
  | setDependents s names, g => g.withDependents s names
  | setPrecedents t names, g => g.withPrecedents t names
  | clear, _ => .empty

/-- The effect of an operation on a set of edges, if no identifier is missing. -/
def onEdges (edges : Edges) : Operation → Edges
  | add s t => Insert.insert (s, t) edges
  | remove s t => edges.erase (s, t)
  | setDependents s names => edges.filter (fun e => e.1 ≠ s) ∪ (names.map fun t => (s, t)).toFinset
  | setPrecedents t names => edges.filter (fun e => e.2 ≠ t) ∪ (names.map fun s => (s, t)).toFinset
  | clear => ∅

theorem ne_empty {op : Operation} (named : "" ∉ op.identifiers) {id : String} (mem : id ∈ op.identifiers) :
    id ≠ "" := fun empty =>
  named (empty ▸ mem)

theorem update_eq_checked (op : Operation) : op.update = .checked op.identifiers op.effect := by
  cases op <;> rfl

theorem run_update {op : Operation} (named : "" ∉ op.identifiers) (g : Graph) :
    op.update.run g = (.ok (), op.effect g) := by
  rw [update_eq_checked]
  exact Update.run_checked (fun _ => ne_empty named) _ g

/-- A missing identifier refuses the operation before the graph is changed. -/
theorem run_update_of_empty {op : Operation} (h : "" ∈ op.identifiers) (g : Graph) :
    op.update.run g = (.error .emptyIdentifier, g) := by
  rw [update_eq_checked]
  exact Update.run_checked_of_empty h _ g

theorem attempt_eq_after (op : Operation) (g : Graph) : op.attempt g = op.update.after g := by
  cases op <;> rfl

end Operation

/-- The graph that an operation leaves, whether it succeeds or is refused. -/
def perform (g : Graph) (op : Operation) : Graph := op.update.state g

def run (g : Graph) (ops : List Operation) : Graph := ops.foldl perform g

end Graph

def Edges.perform (edges : Edges) (op : Graph.Operation) : Edges :=
  if "" ∈ op.identifiers then edges else op.onEdges edges

def Edges.run (edges : Edges) (ops : List Graph.Operation) : Edges := ops.foldl perform edges

/-- No edge begins or ends at the empty name. -/
def Edges.Named (edges : Edges) : Prop := ∀ e ∈ edges, e.1 ≠ "" ∧ e.2 ≠ ""

theorem Edges.Named.perform {edges : Edges} (h : edges.Named) (op : Graph.Operation) :
    (edges.perform op).Named := by
  rw [Edges.perform]
  split
  · exact h
  · next named =>
    have identifier {id : String} : id ∈ op.identifiers → id ≠ "" := Graph.Operation.ne_empty named
    intro e he
    cases op with
    | add s t =>
      rcases Finset.mem_insert.mp he with rfl | old
      · exact ⟨identifier List.mem_cons_self, identifier (List.mem_cons_of_mem s List.mem_cons_self)⟩
      · exact h e old
    | remove s t => exact h e (Finset.mem_of_mem_erase he)
    | setDependents s names =>
      rcases Finset.mem_union.mp he with old | new
      · exact h e (Finset.mem_of_mem_filter e old)
      · obtain ⟨t, ht, rfl⟩ := List.mem_map.mp (List.mem_toFinset.mp new)
        exact ⟨identifier List.mem_cons_self, identifier (List.mem_cons_of_mem s ht)⟩
    | setPrecedents t names =>
      rcases Finset.mem_union.mp he with old | new
      · exact h e (Finset.mem_of_mem_filter e old)
      · obtain ⟨s, hs, rfl⟩ := List.mem_map.mp (List.mem_toFinset.mp new)
        exact ⟨identifier (List.mem_cons_of_mem t hs), identifier List.mem_cons_self⟩
    | clear => exact absurd he (Finset.notMem_empty e)

theorem Edges.Named.run {edges : Edges} (h : edges.Named) (ops : List Graph.Operation) :
    (edges.run ops).Named := by
  induction ops generalizing edges with
  | nil => exact h
  | cons op ops ih => exact ih (h.perform op)

namespace Graph
variable {g : Graph} {edges : Edges} {op : Operation}

namespace Represents

theorem effect (hg : g.Represents edges) (op : Operation) : (op.effect g).Represents (op.onEdges edges) := by
  cases op with
  | add s t => exact hg.insert s t
  | remove s t => exact hg.erase s t
  | setDependents s names => exact hg.withDependents s names
  | setPrecedents t names => exact hg.withPrecedents t names
  | clear => exact .empty

theorem perform (hg : g.Represents edges) (op : Operation) :
    (g.perform op).Represents (edges.perform op) := by
  rw [Graph.perform, Edges.perform]
  by_cases empty : "" ∈ op.identifiers
  · rwa [Update.state_of_run (Operation.run_update_of_empty empty g), if_pos empty]
  · rw [Update.state_of_run (Operation.run_update empty g), if_neg empty]
    exact hg.effect op

theorem run (hg : g.Represents edges) (ops : List Operation) : (g.run ops).Represents (edges.run ops) := by
  induction ops generalizing g edges with
  | nil => exact hg
  | cons op ops ih => exact ih (hg.perform op)

end Represents

/-- The listed dependents are exactly the ends of the edges that leave the name. -/
theorem Represents.listDependents (hg : g.Represents edges) {s : String} (named : s ≠ "") :
    ∃ names, g.listDependents s = .ok names ∧ g.anyDependents s = .ok !names.isEmpty ∧
      ∀ t, t ∈ names ↔ (s, t) ∈ edges := by
  refine ⟨g.dependents s, listDependents_eq_ok named g, ?_, hg.mem_dependents s⟩
  rw [anyDependents, Fault.checkIdentifier_eq_ok named, dependents, node]
  cases g.nodes[s]? with
  | none => simp [Node.empty, bind, Except.bind, pure, Except.pure]
  | some n => rfl

theorem Represents.listPrecedents (hg : g.Represents edges) {t : String} (named : t ≠ "") :
    ∃ names, g.listPrecedents t = .ok names ∧ g.anyPrecedents t = .ok !names.isEmpty ∧
      ∀ s, s ∈ names ↔ (s, t) ∈ edges := by
  refine ⟨g.precedents t, listPrecedents_eq_ok named g, ?_, fun s => hg.mem_precedents s t⟩
  rw [anyPrecedents, Fault.checkIdentifier_eq_ok named, precedents, node]
  cases g.nodes[t]? with
  | none => simp [Node.empty, bind, Except.bind, pure, Except.pure]
  | some n => rfl

theorem run_represents (ops : List Operation) : (empty.run ops).Represents (Edges.run ∅ ops) :=
  Represents.empty.run ops

/-- Refinement over all sequences of operations. The lists of dependents and precedents, the edge count
and the nodes agree with the set of edges. An operation is refused exactly if it lacks an identifier, and
then the graph is unchanged. -/
theorem run_holds_edges (ops : List Operation) :
    let g := empty.run ops
    let edges := Edges.run ∅ ops
    (∀ s, s ≠ "" → ∃ names, g.listDependents s = .ok names ∧ g.anyDependents s = .ok !names.isEmpty ∧
      ∀ t, t ∈ names ↔ (s, t) ∈ edges) ∧
    (∀ t, t ≠ "" → ∃ names, g.listPrecedents t = .ok names ∧ g.anyPrecedents t = .ok !names.isEmpty ∧
      ∀ s, s ∈ names ↔ (s, t) ∈ edges) ∧
    g.edgeCount = edges.card ∧
    (∀ name, g.contains name = true ↔ ∃ e ∈ edges, e.1 = name ∨ e.2 = name) ∧
    edges.Named ∧
    ∀ op : Operation,
      ("" ∈ op.identifiers → op.attempt g = .error .emptyIdentifier ∧ g.perform op = g) ∧
      ("" ∉ op.identifiers → op.attempt g = .ok (g.perform op)) := by
  intro g edges
  have hg : g.Represents edges := run_represents ops
  refine ⟨fun s named => hg.listDependents named, fun t named => hg.listPrecedents named, hg.count,
    hg.contains_iff, Edges.Named.run (fun _ he => absurd he (Finset.notMem_empty _)) ops,
    fun op => ⟨fun empty => ?_, fun named => ?_⟩⟩
  · have refused := Operation.run_update_of_empty empty g
    exact ⟨(op.attempt_eq_after g).trans (Update.after_of_run_error refused), Update.state_of_run refused⟩
  · have done := Operation.run_update named g
    rw [Operation.attempt_eq_after, Update.after_of_run done, perform, Update.state_of_run done]

/-- Self-references and repeated names are allowed. A list with an empty name at the end is refused as a
whole. -/
theorem run_holds_edges_self :
    let ops : List Operation := [.setDependents "A1" ["A1", "B1", "B1"], .setPrecedents "B1" ["C1", "A1"],
      .setPrecedents "A1" ["D1", ""], .remove "C1" "B1"]
    let g := empty.run ops
    Edges.run ∅ ops = {("A1", "A1"), ("A1", "B1")} ∧
      (∃ names, g.listDependents "A1" = .ok names ∧ g.anyDependents "A1" = .ok !names.isEmpty ∧
        ∀ t, t ∈ names ↔ ("A1", t) ∈ Edges.run ∅ ops) ∧
      (Operation.setPrecedents "A1" ["D1", ""]).attempt g = .error .emptyIdentifier ∧
      g.perform (.setPrecedents "A1" ["D1", ""]) = g := by
  intro ops g
  obtain ⟨dependents, _, _, _, _, refusal⟩ := run_holds_edges ops
  exact ⟨by decide +kernel, dependents "A1" (by decide), (refusal _).1 (by decide)⟩

end Graph
end Worksheet
