import Worksheet.Formula.Fault

/-! The shape check of formulas, on adjacent tokens and on the depth of parentheses. -/
namespace Worksheet.Token

/-- The number of open parentheses after a token. -/
def depthAfter (depth : Nat) : Token → Except Malformed Nat
  | left => .ok (depth + 1)
  | right => match depth with
    | 0 => .error .unmatchedRight
    | depth + 1 => .ok depth
  | _ => .ok depth

def checkPair (t next : Token) : Except Malformed Unit :=
  if t.callsForOperand && !next.beginsOperand then .error (.operandExpected t next)
  else if t.endsOperand && !next.comesAfterOperand then .error (.operatorExpected t next)
  else .ok ()

/-- Checks tokens from left to right and returns the number of parentheses left open. -/
def checkRun (depth : Nat) : List Token → Except Malformed Nat
  | [] => .ok depth
  | [t] => t.depthAfter depth
  | t :: next :: rest => do
    let depth ← t.depthAfter depth
    t.checkPair next
    checkRun depth (next :: rest)

/-- Checks that tokens form a formula. Open parentheses are reported before a wrong first or last
token. -/
def checkShape : List Token → Except Malformed Unit
  | [] => .error .empty
  | first :: rest => do
    let depth ← checkRun 0 (first :: rest)
    let last := (first :: rest).getLast (List.cons_ne_nil first rest)
    if depth ≠ 0 then .error .unmatchedLeft
    else if !first.beginsOperand then .error (.firstToken first)
    else if !last.endsOperand then .error (.lastToken last)
    else .ok ()

end Worksheet.Token
