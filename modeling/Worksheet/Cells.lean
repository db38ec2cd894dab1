import Worksheet.Cell
import Worksheet.Update
import Std.Data.ExtTreeMap

/-! A finite map from names to cells. A cell keeps its value until it is evaluated again, and cells with
empty contents are not stored. -/
namespace Worksheet

structure Cells where
  byName : Std.ExtTreeMap String Cell
  deriving DecidableEq

namespace Cells

def empty : Cells := ⟨∅⟩

def get? (s : Cells) (id : String) : Option Cell := s.byName[id]?

def contains (s : Cells) (id : String) : Bool := (s.get? id).isSome

def contents (s : Cells) (id : String) : Contents := ((s.get? id).map Cell.contents).getD .empty

def value (s : Cells) (id : String) : Value := ((s.get? id).map Cell.value).getD .empty

def number? (s : Cells) (id : String) : Option Float := (s.value id).number?

def names (s : Cells) : List String := s.byName.keys

def size (s : Cells) : Nat := s.byName.size

def isEmpty (s : Cells) : Bool := s.byName.isEmpty

/-- Replaces the contents of a cell and keeps its value; empty contents remove the cell. -/
def store (id : String) (contents : Contents) : Update Cells Unit :=
  .checked [id] fun s =>
    if contents.isEmpty then ⟨s.byName.erase id⟩ else ⟨s.byName.insert id ⟨contents, s.value id⟩⟩

/-- Recomputes the value of a cell. Every lookup reads the cells as they were before. -/
def reevaluate (id : String) (lookup : Cells → String → Option Float) : Update Cells Value := do
  Fault.checkIdentifier id
  let s ← get
  match s.get? id with
  | none => throw (.noSuchCell id)
  | some cell =>
    let value := cell.contents.evaluate (lookup s)
    set (⟨s.byName.insert id ⟨cell.contents, value⟩⟩ : Cells)
    return value

def enter (s : Cells) (id : String) (contents : Contents) : Except Fault Cells :=
  (store id contents).after s

def refresh (s : Cells) (id : String) (lookup : Cells → String → Option Float) :
    Except Fault (Cells × Value) :=
  (reevaluate id lookup).result s

end Cells
end Worksheet
