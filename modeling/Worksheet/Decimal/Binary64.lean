import Worksheet.Decimal.Basic

/-! The non-negative doubles as bit patterns, and the pattern nearest to a decimal. A finite pattern
represents a whole number of units of `2 ^ -1074`, and the order of patterns is that of their values. -/
namespace Worksheet
namespace Binary64

/-- The pattern of infinity. The finite patterns are those below it. -/
def infinity : Nat := 0x7FF0000000000000

/-- The pattern of the least normal number; it equals the significand of that number. -/
def leastNormal : Nat := 0x10000000000000

def signBit : Nat := 0x8000000000000000

/-- The value of a finite pattern in units of `2 ^ -1074`. -/
def units (pattern : Nat) : Nat :=
  let field := pattern / leastNormal
  let fraction := pattern % leastNormal
  if field = 0 then fraction else (leastNormal + fraction) <<< (field - 1)

/-- The whole number nearest to `n / d`; a tie is rounded to the even one. -/
def roundDiv (n d : Nat) : Nat :=
  if 2 * (n % d) < d ∨ (2 * (n % d) = d ∧ n / d % 2 = 0) then n / d else n / d + 1

/-- The pattern nearest to `n / d`; a tie is rounded to the even one. A carry out of the greatest
significand increments the exponent field, which yields the next pattern. -/
def nearest (n d : Nat) : Nat :=
  let scaled := n <<< 1074
  let shift := (scaled / d).log2 - 52
  min infinity (shift * leastNormal + roundDiv scaled (d <<< shift))

def toFloat (negative : Bool) (pattern : Nat) : Float :=
  Float.ofBits (UInt64.ofNat (pattern + if negative then signBit else 0))

def isNegative (x : Float) : Bool := decide (signBit ≤ x.toBits.toNat)

/-- The pattern of a double, without its sign. -/
def pattern (x : Float) : Nat := x.toBits.toNat % signBit

end Binary64

namespace Decimal

/-- The pattern of the double nearest to a decimal. Decimals far outside the range of doubles are decided
by their size, without computing the power of ten. -/
def pattern (d : Decimal) : Nat :=
  if d.coefficient = 0 then 0
  else match d.exponent with
    | .ofNat e =>
      if 1024 ≤ d.coefficient.log2 + 3 * e then Binary64.infinity
      else Binary64.nearest d.numerator d.denominator
    | .negSucc e =>
      if d.coefficient.log2 + 1077 ≤ 3 * (e + 1) then 0
      else Binary64.nearest d.numerator d.denominator

end Decimal
end Worksheet
