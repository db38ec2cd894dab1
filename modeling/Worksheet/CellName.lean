/-! Validity of cell names. -/
namespace Worksheet.CellName

/-- One or more ASCII letters, followed by a decimal number without a leading zero. -/
def isWellFormed (name : String) : Bool :=
  let cs := name.toList
  !(cs.takeWhile Char.isAlpha).isEmpty &&
    match cs.dropWhile Char.isAlpha with
    | [] => false
    | digit :: digits => digit.isDigit && digit != '0' && digits.all Char.isDigit

/-- A cell name that satisfies the additional predicate, if one is given. -/
def isAllowed (pattern : Option (String → Bool)) (name : String) : Bool :=
  isWellFormed name && pattern.all (· name)

end Worksheet.CellName
