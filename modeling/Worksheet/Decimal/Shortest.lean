import Worksheet.Decimal.Binary64

/-! The shortest decimal that rounds to a given double. -/
namespace Worksheet
namespace Binary64

/-- The exact decimal value of a pattern. -/
def exact (pattern : Nat) : Decimal := ⟨units pattern * Nat.pow 5 1074, -1074⟩

/-- An exponent whose power of ten exceeds the value of the pattern by at most two places. -/
def topPlace (pattern : Nat) : Int :=
  ((units pattern).log2 - 1073 : Int) * 30103 / 100000 + 1

/-- The two multiples of `10 ^ place` around a value, the nearer one first; on a tie the greater one is
first. -/
def neighbours (pattern : Nat) (place : Int) : List Decimal :=
  let n := units pattern * Decimal.powerOfTen (-place).toNat
  let d := Decimal.powerOfTen place.toNat <<< 1074
  let below : Decimal := ⟨n / d, place⟩
  let above : Decimal := ⟨n / d + 1, place⟩
  if 2 * (n % d) < d then [below, above] else [above, below]

/-- The decimal with the fewest digits that rounds to the pattern, and of several such the nearest.
Places are tried in descending order; seventeen significant digits always suffice, so twenty places are
enough. -/
def shortest (pattern : Nat) : Decimal :=
  let readsBack (d : Decimal) : Bool := d.pattern == pattern
  ((List.range 20).findSome? fun (i : Nat) =>
    (neighbours pattern (topPlace pattern - i)).find? readsBack).getD (exact pattern)

end Binary64
end Worksheet
