import Worksheet.Formula.Fault

/-! The faults with which operations on graphs, cells and sheets are refused. -/
namespace Worksheet

inductive Fault
  | emptyIdentifier
  | emptyCellName
  | noSuchCell (id : String)
  | invalidName (given : String)
  | formula (error : FormulaFault)
  | circular (cell : String)
  deriving DecidableEq, Repr

namespace Fault

def message : Fault → String
  | emptyIdentifier => "Invalid argument: identifier must not be empty"
  | emptyCellName => "Invalid argument: cell name must not be empty"
  | noSuchCell id => "Invalid argument: no such cell: " ++ id
  | invalidName given => "Invalid cell name: " ++ given
  | formula error => error.message
  | circular cell => "Circular dependency detected involving cell " ++ cell

def checkIdentifier (id : String) : Except Fault Unit :=
  if id = "" then .error .emptyIdentifier else .ok ()

def checkIdentifiers (ids : List String) : Except Fault Unit := ids.forM checkIdentifier

end Fault
end Worksheet
