import Worksheet.Graph.Basic

/-! The evaluation order after an edit: every cell follows its precedents, and among the cells that are
ready the least name comes first. -/
namespace Worksheet.Graph

/-- The number of nodes outside a set and of the edges that leave them. It bounds the remaining work of
`closure`. -/
def unexplored (seen : NameSet) : List (String × Node) → Nat
  | [] => 0
  | (name, n) :: nodes =>
    (if name ∈ seen then 0 else n.dependents.size + 1) + unexplored seen nodes

private theorem unexplored_insert_le (seen : NameSet) (name : String) (nodes : List (String × Node)) :
    unexplored (seen.insert name) nodes ≤ unexplored seen nodes := by
  induction nodes with
  | nil => exact Nat.le_refl _
  | cons p nodes ih =>
    rw [unexplored, unexplored]
    by_cases old : p.1 ∈ seen
    · simpa [old, Std.ExtTreeSet.mem_insert] using ih
    · simp only [old, if_false]
      split <;> omega

private theorem unexplored_insert {seen : NameSet} {name : String} {n : Node}
    {nodes : List (String × Node)} (new : name ∉ seen) (member : (name, n) ∈ nodes) :
    unexplored (seen.insert name) nodes + (n.dependents.size + 1) ≤ unexplored seen nodes := by
  induction nodes with
  | nil => cases member
  | cons p nodes ih =>
    rw [unexplored, unexplored]
    rcases List.mem_cons.mp member with rfl | member
    · have := unexplored_insert_le seen name nodes
      simp only [Std.ExtTreeSet.mem_insert_self, new, if_true, if_false]
      omega
    · have := ih member
      by_cases old : p.1 ∈ seen
      · simp only [old, Std.ExtTreeSet.mem_insert, or_true, if_true]
        omega
      · simp only [old, if_false]
        split <;> omega

theorem unexplored_dependents_le (g : Graph) {seen : NameSet} {name : String} (new : name ∉ seen) :
    unexplored (seen.insert name) g.nodes.toList + (g.dependents name).size ≤
      unexplored seen g.nodes.toList := by
  cases found : g.nodes[name]? with
  | none =>
    have := unexplored_insert_le seen name g.nodes.toList
    simpa [dependents, Graph.node, found, Node.empty] using this
  | some n =>
    have := unexplored_insert new (Std.ExtTreeMap.mem_toList_iff_getElem?_eq_some.mpr found)
    simp only [dependents, Graph.node, found, Option.getD_some]
    omega

/-- The names in `seen`, together with the names in `todo` and all that depend on these. -/
def closure (g : Graph) (seen : NameSet) : List String → NameSet
  | [] => seen
  | name :: todo =>
    if name ∈ seen then closure g seen todo
    else closure g (seen.insert name) ((g.dependents name).toList ++ todo)
termination_by todo => unexplored seen g.nodes.toList + todo.length
decreasing_by
  · simp
  · next new =>
    have := unexplored_dependents_le g new
    simp only [List.length_append, List.length_cons, Std.ExtTreeSet.length_toList]
    omega

/-- The name `start` and all names that depend on it, directly or indirectly. -/
def downstream (g : Graph) (start : String) : NameSet := g.closure ∅ [start]

/-- A state of the topological sort: the number of unsettled precedents of each name, the names for which
it is zero, and the settled names with the latest first. -/
structure Countdown where
  waiting : Std.ExtTreeMap String Nat
  ready : NameSet
  settled : List String

namespace Countdown

def start (g : Graph) (names : NameSet) : Countdown :=
  let count (name : String) := ((g.precedents name).filter (· ∈ names)).size
  ⟨Std.ExtTreeMap.ofList (names.toList.map fun name => (name, count name)),
    names.filter fun name => count name = 0, []⟩

/-- Decrements the count of a name when one of its precedents is settled. -/
def release (c : Countdown) (name : String) : Countdown :=
  match c.waiting[name]? with
  | none => c
  | some n =>
    ⟨c.waiting.insert name (n - 1), if n - 1 = 0 then c.ready.insert name else c.ready, c.settled⟩

/-- Settles the least ready name. -/
def step (g : Graph) (c : Countdown) : Countdown :=
  match c.ready.toList with
  | [] => c
  | name :: _ =>
    (g.dependents name).toList.foldl release ⟨c.waiting, c.ready.erase name, name :: c.settled⟩

def run (g : Graph) : Nat → Countdown → Countdown
  | 0, c => c
  | n + 1, c => run g n (c.step g)

end Countdown

/-- The names downstream of `start` in evaluation order. If a cycle leaves some of them unsettled, the
result is a fault. -/
def evaluationOrder (g : Graph) (start : String) : Except Fault (List String) := do
  Fault.checkIdentifier start
  let names := g.downstream start
  let settled := ((Countdown.start g names).run g names.size).settled
  if settled.length = names.size then return settled.reverse else .error (.circular start)

end Worksheet.Graph
