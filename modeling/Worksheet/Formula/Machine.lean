import Worksheet.Formula.Basic

/-! Evaluation of a formula in one pass over its tokens with two stacks. Products are applied as soon as
the right factor is available; a sum is applied at the next sum operator, closing parenthesis or end. -/
namespace Worksheet

/-- Applies an operator. Division by zero of either sign is a fault. -/
def Operator.apply (op : Operator) (left right : Float) : Except FormulaFault Float :=
  match op with
  | add => .ok (left + right)
  | subtract => .ok (left - right)
  | multiply => .ok (left * right)
  | divide => if right == 0 then .error .divisionByZero else .ok (left / right)

/-- A computation with access to a lookup: the names that it queries, in order, and its outcome. -/
structure Querying (α : Type) where
  queries : List String
  outcome : Except FormulaFault α

namespace Querying

/-- A fault ends the computation, so later queries are not made. -/
instance monad : Monad Querying where
  pure x := ⟨[], .ok x⟩
  bind first next := match first.outcome with
    | .ok x =>
      let rest := next x
      ⟨first.queries ++ rest.queries, rest.outcome⟩
    | .error e => ⟨first.queries, .error e⟩

instance liftExcept : MonadLift (Except FormulaFault) Querying := ⟨fun outcome => ⟨[], outcome⟩⟩

/-- Queries one name; a name without a number is a fault. -/
def ask (lookup : String → Option Float) (name : String) : Querying Float where
  queries := [name]
  outcome := match lookup name with
    | some x => .ok x
    | none => .error (.undefinedVariable name)

end Querying

/-- An entry of the operator stack. -/
inductive Pending
  | operator (op : Operator)
  | left
  deriving DecidableEq, Repr

structure Machine where
  values : List Float
  pending : List Pending
  deriving DecidableEq, Repr

namespace Machine

def start : Machine := ⟨[], []⟩

def malformed : FormulaFault := .malformed .expression

/-- Pushes an operand, after applying the product on top of the operator stack, if there is one. -/
def takeOperand (m : Machine) (x : Float) : Except FormulaFault Machine :=
  match m.pending with
  | .operator op :: pending =>
    if op.bindsTight then
      match m.values with
      | left :: values => do return ⟨(← op.apply left x) :: values, pending⟩
      | [] => .error malformed
    else .ok ⟨x :: m.values, m.pending⟩
  | _ => .ok ⟨x :: m.values, m.pending⟩

/-- Applies the sum on top of the operator stack, if there is one. -/
def settleSum (m : Machine) : Except FormulaFault Machine :=
  match m.pending with
  | .operator op :: pending =>
    if op.bindsTight then .ok m
    else match m.values with
      | right :: left :: values => do return ⟨(← op.apply left right) :: values, pending⟩
      | _ => .error malformed
  | _ => .ok m

def takeOperator (m : Machine) (op : Operator) : Except FormulaFault Machine := do
  let m ← if op.bindsTight then .ok m else m.settleSum
  return ⟨m.values, .operator op :: m.pending⟩

/-- Closes a group: its value becomes an operand of the enclosing expression. -/
def closeGroup (m : Machine) : Except FormulaFault Machine := do
  let m ← m.settleSum
  match m.pending, m.values with
  | .left :: pending, x :: values => takeOperand ⟨values, pending⟩ x
  | _, _ => .error malformed

def result (m : Machine) : Except FormulaFault Float := do
  let m ← m.settleSum
  match m.values, m.pending with
  | [x], [] => .ok x
  | _, _ => .error malformed

/-- One step of the evaluation. Only a variable queries the lookup. -/
def step (lookup : String → Option Float) (m : Machine) : Token → Querying Machine
  | .number x => m.takeOperand x
  | .var name => do m.takeOperand (← Querying.ask lookup name)
  | .operator op => m.takeOperator op
  | .left => pure ⟨m.values, .left :: m.pending⟩
  | .right => m.closeGroup

/-- The evaluation of the remaining tokens. -/
def evaluation (lookup : String → Option Float) (m : Machine) : List Token → Querying Float
  | [] => m.result
  | t :: ts => do evaluation lookup (← m.step lookup t) ts

def feed (lookup : String → Option Float) (m : Machine) (t : Token) : Except FormulaFault Machine :=
  (m.step lookup t).outcome

def run (lookup : String → Option Float) (m : Machine) (ts : List Token) : Except FormulaFault Float :=
  (m.evaluation lookup ts).outcome

/-- The names queried by a run, in order. -/
def asked (lookup : String → Option Float) (m : Machine) (ts : List Token) : List String :=
  (m.evaluation lookup ts).queries

end Machine

namespace Formula

/-- The evaluation of a formula together with its queries; `evaluate` and `lookups` are its two
projections. -/
def evaluation (f : Formula) (lookup : String → Option Float) : Querying Float :=
  Machine.start.evaluation lookup f.tokens

/-- The value of a formula, or the first fault from the left. -/
def evaluate (f : Formula) (lookup : String → Option Float) : Except FormulaFault Float :=
  (f.evaluation lookup).outcome

/-- The names queried by the evaluation, in order. -/
def lookups (f : Formula) (lookup : String → Option Float) : List String :=
  (f.evaluation lookup).queries

end Formula
end Worksheet
