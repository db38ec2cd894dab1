import Worksheet.Formula.Operator
import Worksheet.Number

/-! Tokens of formulas, and the conditions on adjacent tokens. -/
namespace Worksheet

inductive Token
  | number (value : Float)
  | var (name : String)
  | operator (op : Operator)
  | left
  | right
  deriving DecidableEq, Repr

namespace Token

/-- Compares numbers by floating-point equality, so the two zeros are equal. -/
protected def beq : Token → Token → Bool
  | number a, number b => a == b
  | var a, var b => a == b
  | operator a, operator b => a == b
  | left, left => true
  | right, right => true
  | _, _ => false

instance : BEq Token := ⟨Token.beq⟩

/-- The hashed data of a token; a number is represented by its bits. -/
inductive Key
  | number (bits : UInt64)
  | var (name : String)
  | operator (op : Operator)
  | left
  | right
  deriving DecidableEq, Hashable

def key : Token → Key
  | number value => .number value.toBits
  | var name => .var name
  | operator op => .operator op
  | left => .left
  | right => .right

instance : Hashable Token := ⟨fun t => hash t.key⟩

def text : Token → List Char
  | number value => Number.text value
  | var name => name.toList
  | operator op => [op.symbol]
  | left => ['(']
  | right => [')']

def beginsOperand : Token → Bool
  | number _ | var _ | left => true
  | operator _ | right => false

def endsOperand : Token → Bool
  | number _ | var _ | right => true
  | operator _ | left => false

def comesAfterOperand : Token → Bool
  | operator _ | right => true
  | number _ | var _ | left => false

/-- The next token must begin an operand. -/
def callsForOperand : Token → Bool
  | operator _ | left => true
  | number _ | var _ | right => false

def name? : Token → Option String
  | var name => some name
  | _ => none

end Token
end Worksheet
