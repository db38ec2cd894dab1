import Worksheet.Sheet.Basic
import Worksheet.Sheet.Event

/-! Edits. The precedents of the edited cell are replaced and the evaluation order is computed before any
contents are stored. If there is no evaluation order, the previous precedents are restored. -/
namespace Worksheet

/-- Replaces the precedents of `cell` and computes its evaluation order. If there is none, the previous
precedents are restored and the fault is returned. -/
def Graph.redirect (cell : String) (precedents : NameSet) : Update Graph (Except Fault (List String)) := do
  let previous ← (← get).listPrecedents cell
  replacePrecedents cell precedents.toList
  match (← get).evaluationOrder cell with
  | .ok order => return .ok order
  | .error fault =>
    replacePrecedents cell previous.toList
    return .error fault

/-- Evaluates those cells of the list that exist, in order. Each lookup reads the values computed so
far. -/
def Cells.recalculate : List String → Update Cells (List Event)
  | [] => return []
  | cell :: order => do
    if (← get).contains cell then
      let value ← reevaluate cell number?
      return .evaluated cell value :: (← recalculate order)
    else recalculate order

/-- Stores new contents and evaluates the cells that depend on them. -/
def Cells.commit (cell : String) (contents : Contents) (order : List String) : Update Cells (List Event) := do
  store cell contents
  recalculate order

/-- The result of an edit: its outcome, the sheet that it leaves, and the events that it logs. -/
structure Edit where
  outcome : Except Fault NameSet
  sheet : Sheet
  log : List Event

namespace Sheet

/-- Enters text in a cell. On success the outcome is the set of the cell and all that depend on it. -/
def enter (s : Sheet) (given raw : String) : Edit :=
  match s.config.cellName given with
  | .error fault => ⟨.error fault, s, [.refusedName given fault]⟩
  | .ok cell => match s.config.readEntry raw with
    | .error fault => ⟨.error fault, s, [.refusedContents cell fault]⟩
    | .ok contents => match (Graph.redirect cell contents.precedents).run s.graph with
      | (.error fault, graph) => ⟨.error fault, { s with graph := graph }, []⟩
      | (.ok (.error fault), graph) =>
        ⟨.error fault, { s with graph := graph }, [.refusedContents cell fault]⟩
      | (.ok (.ok order), graph) => match (Cells.commit cell contents order).run s.cells with
        | (.error fault, cells) => ⟨.error fault, { s with graph := graph, cells := cells }, []⟩
        | (.ok log, cells) => ⟨.ok (Std.ExtTreeSet.ofList order), ⟨s.config, graph, cells, true⟩,
            log ++ [.recalculated cell order.length]⟩

/-- Enters pairs of name and text in order, up to the first refused edit. -/
def enterAll (s : Sheet) : List (String × String) → Except Fault Sheet × List Event
  | [] => (.ok s, [])
  | (name, raw) :: pairs =>
    let edit := s.enter name raw
    match edit.outcome with
    | .error fault => (.error fault, edit.log)
    | .ok _ =>
      let (sheet, log) := edit.sheet.enterAll pairs
      (sheet, edit.log ++ log)

/-- The sheet obtained from pairs of name and text, marked as unchanged. -/
def ofPairs (config : Config) (pairs : List (String × String)) : Except Fault Sheet × List Event :=
  let (sheet, log) := (Sheet.empty config).enterAll pairs
  (sheet.map save, log)

end Sheet
end Worksheet
