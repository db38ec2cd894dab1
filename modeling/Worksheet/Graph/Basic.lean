import Worksheet.Formula.Basic
import Worksheet.Update
import Std.Data.ExtTreeMap

/-! The dependency graph. An edge from `s` to `t` states that `t` depends on `s`: `s` is a precedent of
`t`, and `t` is a dependent of `s`. Both end nodes record an edge, and a node is present exactly while it
has an edge. -/
namespace Worksheet

structure Node where
  dependents : NameSet
  precedents : NameSet
  deriving DecidableEq

namespace Node

def empty : Node := ⟨∅, ∅⟩

def isBare (n : Node) : Bool := n.dependents.isEmpty && n.precedents.isEmpty

def addDependent (n : Node) (t : String) : Node := ⟨n.dependents.insert t, n.precedents⟩
def addPrecedent (n : Node) (s : String) : Node := ⟨n.dependents, n.precedents.insert s⟩
def removeDependent (n : Node) (t : String) : Node := ⟨n.dependents.erase t, n.precedents⟩
def removePrecedent (n : Node) (s : String) : Node := ⟨n.dependents, n.precedents.erase s⟩

end Node

structure Graph where
  nodes : Std.ExtTreeMap String Node
  edgeCount : Nat
  deriving DecidableEq

namespace Graph

def empty : Graph := ⟨∅, 0⟩

def isEmpty (g : Graph) : Bool := g.edgeCount == 0

def contains (g : Graph) (name : String) : Bool := g.nodes.contains name

def node (g : Graph) (name : String) : Node := (g.nodes[name]?).getD .empty

def dependents (g : Graph) (s : String) : NameSet := (g.node s).dependents

def precedents (g : Graph) (t : String) : NameSet := (g.node t).precedents

/-- Adds an edge; an edge that is present is not counted again. -/
def insert (g : Graph) (s t : String) : Graph :=
  if t ∈ g.dependents s then g
  else
    let nodes := g.nodes.alter s fun n => some ((n.getD .empty).addDependent t)
    let nodes := nodes.alter t fun n => some ((n.getD .empty).addPrecedent s)
    ⟨nodes, g.edgeCount + 1⟩

/-- Removes a node without edges. -/
def dropIsolated (g : Graph) (name : String) : Graph :=
  if (g.nodes[name]?).any Node.isBare then ⟨g.nodes.erase name, g.edgeCount⟩ else g

/-- Removes an edge, if it is present. -/
def erase (g : Graph) (s t : String) : Graph :=
  if t ∈ g.dependents s then
    let nodes := g.nodes.modify s (·.removeDependent t)
    let nodes := nodes.modify t (·.removePrecedent s)
    ((⟨nodes, g.edgeCount - 1⟩ : Graph).dropIsolated s).dropIsolated t
  else g

/-- The graph in which `names` are the dependents of `s`. -/
def withDependents (g : Graph) (s : String) (names : List String) : Graph :=
  let cleared := (g.dependents s).toList.foldl (fun g t => g.erase s t) g
  names.foldl (fun g t => g.insert s t) cleared

/-- The graph in which `names` are the precedents of `t`. -/
def withPrecedents (g : Graph) (t : String) (names : List String) : Graph :=
  let cleared := (g.precedents t).toList.foldl (fun g s => g.erase s t) g
  names.foldl (fun g s => g.insert s t) cleared

def addEdge (s t : String) : Update Graph Unit := .checked [s, t] (·.insert s t)

def removeEdge (s t : String) : Update Graph Unit := .checked [s, t] (·.erase s t)

def replaceDependents (s : String) (names : List String) : Update Graph Unit :=
  .checked (s :: names) (·.withDependents s names)

def replacePrecedents (t : String) (names : List String) : Update Graph Unit :=
  .checked (t :: names) (·.withPrecedents t names)

def add (g : Graph) (s t : String) : Except Fault Graph := (addEdge s t).after g

def remove (g : Graph) (s t : String) : Except Fault Graph := (removeEdge s t).after g

def setDependents (g : Graph) (s : String) (names : List String) : Except Fault Graph :=
  (replaceDependents s names).after g

def setPrecedents (g : Graph) (t : String) (names : List String) : Except Fault Graph :=
  (replacePrecedents t names).after g

def listDependents (g : Graph) (s : String) : Except Fault NameSet := do
  Fault.checkIdentifier s
  return g.dependents s

def listPrecedents (g : Graph) (t : String) : Except Fault NameSet := do
  Fault.checkIdentifier t
  return g.precedents t

def anyDependents (g : Graph) (s : String) : Except Fault Bool := do
  Fault.checkIdentifier s
  return (g.nodes[s]?).any fun n => !n.dependents.isEmpty

def anyPrecedents (g : Graph) (t : String) : Except Fault Bool := do
  Fault.checkIdentifier t
  return (g.nodes[t]?).any fun n => !n.precedents.isEmpty

end Graph
end Worksheet
