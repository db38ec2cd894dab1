/-! The four binary operators. -/
namespace Worksheet

inductive Operator
  | add
  | subtract
  | multiply
  | divide
  deriving DecidableEq, Repr, Hashable

namespace Operator

def symbol : Operator → Char
  | add => '+'
  | subtract => '-'
  | multiply => '*'
  | divide => '/'

def ofSymbol? : Char → Option Operator
  | '+' => some add
  | '-' => some subtract
  | '*' => some multiply
  | '/' => some divide
  | _ => none

def bindsTight : Operator → Bool
  | multiply | divide => true
  | add | subtract => false

theorem ofSymbol?_symbol (op : Operator) : ofSymbol? op.symbol = some op := by
  cases op <;> rfl

end Operator
end Worksheet
