import Worksheet.Cell
import Worksheet.Fault
import Worksheet.Text.Quoted

/-! Events logged by an edit. -/
namespace Worksheet

inductive Level
  | trace
  | debug
  deriving DecidableEq, Repr

inductive Event
  | refusedName (given : String) (fault : Fault)
  | refusedContents (cell : String) (fault : Fault)
  | evaluated (cell : String) (value : Value)
  | recalculated (cell : String) (count : Nat)
  deriving DecidableEq, Repr

namespace Event

/-- Only values that are not errors are logged as traces. -/
def level : Event → Level
  | evaluated _ value => if value.error?.isSome then .debug else .trace
  | _ => .debug

/-- The text of the log record. A refused name is quoted. -/
def message : Event → String
  | refusedName given fault => "rejected edit of " ++ Text.quoted given ++ ": " ++ fault.message
  | refusedContents cell fault => "rejected edit of " ++ cell ++ ": " ++ fault.message
  | evaluated cell (.error e) => cell ++ " evaluated to an error: " ++ e.message
  | evaluated cell value => cell ++ " = " ++ value.display
  | recalculated cell count =>
    "set " ++ cell ++ ": recalculated " ++ String.ofList (Nat.toDigits 10 count) ++ " cell(s)"

end Event
end Worksheet
