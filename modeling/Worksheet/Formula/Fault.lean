import Worksheet.Formula.Token

/-! Faults of parsing and of evaluating a formula. -/
namespace Worksheet

inductive Malformed
  | token (text : List Char)
  | outOfRange (literal : List Char)
  | variableName (name : String)
  | empty
  | unmatchedRight
  | unmatchedLeft
  | operandExpected (after found : Token)
  | operatorExpected (after found : Token)
  | firstToken (found : Token)
  | lastToken (found : Token)
  | expression
  | other (detail : String)
  deriving DecidableEq, Repr

namespace Malformed

def detail : Malformed → String
  | token text => "Invalid token: '" ++ String.ofList text ++ "'"
  | outOfRange literal => "Number literal out of range: " ++ String.ofList literal
  | variableName name => "Invalid variable: " ++ name
  | empty => "Formula must have at least one token"
  | unmatchedRight => "Closing parenthesis without a matching opening parenthesis"
  | unmatchedLeft => "Unclosed parenthesis"
  | operandExpected after found =>
    "Expected a number, variable or '(' after '" ++ String.ofList after.text ++
      "', found '" ++ String.ofList found.text ++ "'"
  | operatorExpected after found =>
    "Expected an operator or ')' after '" ++ String.ofList after.text ++
      "', found '" ++ String.ofList found.text ++ "'"
  | firstToken found =>
    "Formula must begin with a number, variable or '(', found '" ++ String.ofList found.text ++ "'"
  | lastToken found =>
    "Formula must end with a number, variable or ')', found '" ++ String.ofList found.text ++ "'"
  | expression => "Malformed expression"
  | other detail => detail

end Malformed

inductive FormulaFault
  | malformed (reason : Malformed)
  | undefinedVariable (name : String)
  | divisionByZero
  deriving DecidableEq, Repr

namespace FormulaFault

def isMalformed : FormulaFault → Bool
  | malformed _ => true
  | _ => false

def message : FormulaFault → String
  | malformed reason => "Formula format error: " ++ reason.detail
  | undefinedVariable name => "Undefined variable: " ++ name
  | divisionByZero => "Division by zero"

end FormulaFault
end Worksheet
