import Worksheet.Graph.Order
import Worksheet.Sheet.Config
import Worksheet.Cells

/-! Sheets and their observers. -/
namespace Worksheet

structure Sheet where
  config : Config
  graph : Graph
  cells : Cells
  /-- Whether an edit has succeeded since the sheet was created or saved. -/
  changed : Bool

namespace Sheet

def empty (config : Config) : Sheet := ⟨config, .empty, .empty, false⟩

def contents (s : Sheet) (name : String) : Contents := s.cells.contents (s.config.normalize name)

def value (s : Sheet) (name : String) : Value := s.cells.value (s.config.normalize name)

def dependents (s : Sheet) (name : String) : Except Fault NameSet :=
  s.graph.listDependents (s.config.normalize name)

def names (s : Sheet) : List String := s.cells.names

def size (s : Sheet) : Nat := s.cells.size

def isEmpty (s : Sheet) : Bool := s.cells.isEmpty

/-- The names of the cells in order, each with the text of its contents. -/
def toPairs (s : Sheet) : List (String × String) :=
  s.cells.byName.toList.map fun (name, cell) => (name, cell.contents.written s.config.marker)

def save (s : Sheet) : Sheet := { s with changed := false }

end Sheet
end Worksheet
