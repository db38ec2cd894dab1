/-! Exact decimal numbers. -/
namespace Worksheet

/-- The number `coefficient * 10 ^ exponent`. -/
structure Decimal where
  coefficient : Nat
  exponent : Int
  deriving DecidableEq, Repr

namespace Decimal

def powerOfTen (k : Nat) : Nat := Nat.pow 10 k

def numerator (d : Decimal) : Nat := d.coefficient * powerOfTen d.exponent.toNat

def denominator (d : Decimal) : Nat := powerOfTen (-d.exponent).toNat

end Decimal
end Worksheet
