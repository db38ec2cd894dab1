import Worksheet.Decimal.Basic

/-! Positional notation of decimals, without exponent and without redundant zeros. -/
namespace Worksheet.Decimal

/-- The decimal places of `n / 10 ^ places`, without trailing zeros. -/
def fractionDigits (n places : Nat) : List Char :=
  let digits := Nat.toDigits 10 n
  let padded := List.replicate (places - digits.length) '0' ++ digits
  (padded.reverse.dropWhile (· == '0')).reverse

def positional (d : Decimal) : List Char :=
  let whole := Nat.toDigits 10 (d.numerator / d.denominator)
  match fractionDigits (d.numerator % d.denominator) (-d.exponent).toNat with
  | [] => whole
  | digits => whole ++ '.' :: digits

end Worksheet.Decimal
