import Worksheet.Cell
import Worksheet.CellName
import Worksheet.Fault
import Worksheet.Pattern.Reader
import Worksheet.Text.UpperCase

/-! Configuration of a sheet: the treatment of names and of entered text. -/
namespace Worksheet

structure Config where
  /-- The character that introduces a formula. -/
  marker : Char := '='
  /-- Whether names are converted to upper case. -/
  foldCase : Bool := true
  /-- A predicate required of normalized names in addition to the syntax of cell names. -/
  pattern : Option (String → Bool) := none

/-- The predicate of the names that a pattern matches. -/
instance Pattern.coeToPredicate : Coe Pattern (String → Bool) := ⟨Pattern.matchesIn⟩

namespace Config

/-- Requires names to match the pattern with the given text; the result is `none` if the text is not a
pattern. -/
def withPattern? (c : Config) (text : String) : Option Config :=
  (Pattern.ofText? text).map fun p => { c with pattern := some p }

def normalize (c : Config) (name : String) : String :=
  if c.foldCase then Text.upper name else name

def admits (c : Config) (name : String) : Bool := CellName.isAllowed c.pattern name

/-- The normalized name of the cell to be edited. -/
def cellName (c : Config) (given : String) : Except Fault String :=
  if given = "" then .error .emptyCellName
  else if c.admits (c.normalize given) then .ok (c.normalize given)
  else .error (.invalidName given)

/-- The finite number that the trimmed text denotes. -/
def finiteNumber? (raw : List Char) : Option Float :=
  (Number.ofText? (Text.trim raw)).filter Float.isFinite

/-- The contents denoted by entered text: a finite number if it parses as one, otherwise a formula if it
begins with the marker, otherwise the text itself. -/
def readEntry (c : Config) (raw : String) : Except Fault Contents :=
  match finiteNumber? raw.toList, raw.toList with
  | some x, _ => .ok (.number x)
  | none, [] => .ok (.text raw)
  | none, first :: body =>
    if first = c.marker then
      match Formula.ofTextWith c.normalize c.admits body with
      | .ok f => .ok (.formula f)
      | .error reason => .error (.formula (.malformed reason))
    else .ok (.text raw)

end Config
end Worksheet
