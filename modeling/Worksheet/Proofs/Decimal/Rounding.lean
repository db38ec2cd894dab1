import Worksheet.Decimal.Shortest
import Mathlib.Tactic

/-! Rounding of decimals. The nearest pattern depends only on the value of a decimal, and the shortest
decimal of a finite pattern rounds to that pattern. -/
namespace Worksheet

namespace Binary64

/-- The binary exponent of the number one, in units. It is irreducible so that its powers are not
evaluated. -/
@[irreducible]
def unitPlaces : Nat := 1074

theorem unitPlaces_eq : unitPlaces = 1074 := by rw [unitPlaces]

def one : Nat := 2 ^ unitPlaces

theorem shiftLeft_eq_mul_one (n : Nat) : n <<< 1074 = n * one := by
  rw [one, ← Nat.shiftLeft_eq, unitPlaces_eq]

theorem one_pos : 0 < one := Nat.two_pow_pos _

/-- The excess of the binary length of a value over that of a significand. -/
def shift (q : Nat) : Nat := q.log2 - 52

theorem nearest_eq (n d : Nat) : nearest n d = min infinity
    (shift (n * one / d) * leastNormal + roundDiv (n * one) (d * 2 ^ shift (n * one / d))) := by
  rw [nearest, shiftLeft_eq_mul_one, Nat.shiftLeft_eq]
  rfl

theorem roundDiv_mul {k : Nat} (hk : 0 < k) (n d : Nat) : roundDiv (n * k) (d * k) = roundDiv n d := by
  have less : 2 * (n % d * k) < d * k ↔ 2 * (n % d) < d := by
    rw [← Nat.mul_assoc]
    exact Nat.mul_lt_mul_right hk
  have tie : 2 * (n % d * k) = d * k ↔ 2 * (n % d) = d := by
    rw [← Nat.mul_assoc]
    exact Nat.mul_left_inj hk.ne'
  simp only [roundDiv, Nat.mul_mod_mul_right, Nat.mul_div_mul_right _ _ hk, less, tie]

theorem roundDiv_mul_self {d : Nat} (hd : 0 < d) (n : Nat) : roundDiv (n * d) d = n := by
  rw [roundDiv, Nat.mul_mod_left, if_pos (.inl hd), Nat.mul_div_cancel _ hd]

theorem div_le_roundDiv (n d : Nat) : n / d ≤ roundDiv n d := by
  rw [roundDiv]
  split
  · exact Nat.le_refl _
  · exact Nat.le_succ _

theorem nearest_mul {k : Nat} (hk : 0 < k) (n d : Nat) : nearest (n * k) (d * k) = nearest n d := by
  rw [nearest_eq, nearest_eq, Nat.mul_right_comm n, Nat.mul_div_mul_right _ _ hk, Nat.mul_right_comm d,
    roundDiv_mul hk]

theorem nearest_congr {n d n' d' : Nat} (hd : 0 < d) (hd' : 0 < d') (same : n * d' = n' * d) :
    nearest n d = nearest n' d' := by
  rw [← nearest_mul hd' n d, ← nearest_mul hd n' d', same, Nat.mul_comm d d']

/-- A value below half a unit rounds to zero. -/
theorem nearest_eq_zero {n d : Nat} (h : 2 * (n * one) < d) : nearest n d = 0 := by
  have small : n * one < d := by omega
  rw [nearest_eq, Nat.div_eq_of_lt small, show shift 0 = 0 from rfl, Nat.zero_mul, Nat.pow_zero, Nat.mul_one,
    roundDiv, Nat.mod_eq_of_lt small, if_pos (.inl h), Nat.div_eq_of_lt small]
  rfl

/-- Rounding preserves lower bounds that are powers of two. -/
theorem le_nearest {n d e : Nat} (hd : 0 < d) (h : d * 2 ^ e ≤ n) :
    min infinity ((e + 1023) * leastNormal) ≤ nearest n d := by
  rw [nearest_eq]
  generalize hq : n * one / d = q
  have large : 2 ^ (e + unitPlaces) ≤ q := by
    rw [← hq, Nat.le_div_iff_mul_le hd, Nat.pow_add, Nat.mul_right_comm, Nat.mul_comm _ d]
    exact Nat.mul_le_mul_right _ h
  have ne : q ≠ 0 := (Nat.lt_of_lt_of_le (Nat.two_pow_pos _) large).ne'
  have log : e + unitPlaces ≤ q.log2 := (Nat.le_log2 ne).mpr large
  rw [unitPlaces_eq] at log
  have shifted : e + 1022 ≤ shift q := by
    rw [shift]
    omega
  have significand : leastNormal ≤ roundDiv (n * one) (d * 2 ^ shift q) := by
    refine Nat.le_trans ?_ (div_le_roundDiv _ _)
    rw [← Nat.div_div_eq_div_mul, hq, Nat.le_div_iff_mul_le (Nat.two_pow_pos _),
      show leastNormal = 2 ^ 52 from rfl, ← Nat.pow_add, shift, show 52 + (q.log2 - 52) = q.log2 by omega]
    exact Nat.log2_self_le ne
  refine min_le_min_left infinity ?_
  calc (e + 1023) * leastNormal
      = (e + 1022) * leastNormal + leastNormal := Nat.succ_mul _ _
    _ ≤ shift q * leastNormal + roundDiv (n * one) (d * 2 ^ shift q) :=
      Nat.add_le_add (Nat.mul_le_mul_right _ shifted) significand

theorem shift_eq_zero {n : Nat} (h : n < leastNormal) : shift n = 0 := by
  rw [shift, Nat.sub_eq_zero_iff_le]
  by_cases zero : n = 0
  · rw [zero]
    decide
  · exact Nat.le_of_lt_succ ((Nat.log2_lt zero).mpr (Nat.lt_trans h (by decide)))

theorem shift_mul_two_pow {m : Nat} (least : leastNormal ≤ m) (most : m < 2 * leastNormal) (k : Nat) :
    shift (m * 2 ^ k) = k := by
  have lower : 2 ^ (52 + k) ≤ m * 2 ^ k := by
    rw [Nat.pow_add]
    exact Nat.mul_le_mul_right _ least
  have upper : m * 2 ^ k < 2 ^ (53 + k) := by
    rw [Nat.pow_add]
    exact Nat.mul_lt_mul_of_pos_right most (Nat.two_pow_pos k)
  have ne : m * 2 ^ k ≠ 0 := (Nat.lt_of_lt_of_le (Nat.two_pow_pos _) lower).ne'
  have := (Nat.le_log2 ne).mpr lower
  have := (Nat.log2_lt ne).mpr upper
  rw [shift]
  omega

/-- A whole number of units whose significand fits is rounded to itself. -/
theorem nearest_significand {m k : Nat} (fits : shift (m * 2 ^ k) = k) :
    nearest (m * 2 ^ k) one = min infinity (k * leastNormal + m) := by
  rw [nearest_eq, Nat.mul_div_cancel _ one_pos, fits, Nat.mul_comm one, roundDiv_mul one_pos,
    roundDiv_mul_self (Nat.two_pow_pos k)]

theorem nearest_units {p : Nat} (h : p < infinity) : nearest (units p) one = p := by
  have split := Nat.div_add_mod p leastNormal
  have small := Nat.mod_lt p (show 0 < leastNormal by decide)
  rw [units]
  generalize p / leastNormal = field at *
  generalize p % leastNormal = fraction at *
  cases field with
  | zero =>
    have subnormal := nearest_significand (m := fraction) (k := 0) (by simpa using shift_eq_zero small)
    rw [Nat.pow_zero, Nat.mul_one] at subnormal
    rw [if_pos rfl, subnormal]
    omega
  | succ k =>
    have fits := shift_mul_two_pow (Nat.le_add_right leastNormal fraction) (by omega) k
    rw [if_neg (Nat.succ_ne_zero k), Nat.add_sub_cancel, Nat.shiftLeft_eq, nearest_significand fits,
      ← Nat.add_assoc, ← Nat.succ_mul, Nat.mul_comm, split]
    exact Nat.min_eq_right h.le

theorem nearest_le_infinity (n d : Nat) : nearest n d ≤ infinity := Nat.min_le_left _ _

theorem nearest_eq_infinity {n d e : Nat} (hd : 0 < d) (large : 1024 ≤ e) (h : d * 2 ^ e ≤ n) :
    nearest n d = infinity := by
  have top : infinity ≤ (e + 1023) * leastNormal := by
    rw [show infinity = 2047 * leastNormal from rfl]
    exact Nat.mul_le_mul_right _ (by omega)
  have := le_nearest hd h
  rw [Nat.min_eq_left top] at this
  exact Nat.le_antisymm (nearest_le_infinity n d) this

end Binary64

namespace Decimal
open Binary64

theorem powerOfTen_eq (k : Nat) : powerOfTen k = 10 ^ k := rfl

theorem denominator_pos (d : Decimal) : 0 < d.denominator := Nat.pow_pos (by decide)

theorem two_pow_le_powerOfTen (k : Nat) : 2 ^ (3 * k) ≤ powerOfTen k := by
  rw [Nat.pow_mul]
  exact Nat.pow_le_pow_left (by decide) k

/-- The shortcut for decimals far outside the range agrees with rounding. -/
theorem pattern_eq_nearest (d : Decimal) : d.pattern = nearest d.numerator d.denominator := by
  obtain ⟨c, exponent⟩ := d
  rw [pattern]
  by_cases zero : c = 0
  · rw [if_pos zero, numerator, zero, Nat.zero_mul, nearest_eq_zero]
    rw [Nat.zero_mul]
    exact denominator_pos _
  rw [if_neg zero]
  cases exponent with
  | ofNat e =>
    change (if 1024 ≤ c.log2 + 3 * e then infinity else _) = _
    split
    · next large =>
      symm
      refine nearest_eq_infinity (denominator_pos _) large ?_
      change powerOfTen (-(e : Int)).toNat * 2 ^ (c.log2 + 3 * e) ≤ c * powerOfTen e
      rw [Int.toNat_neg_natCast, powerOfTen_eq 0, Nat.pow_zero, Nat.one_mul, Nat.pow_add]
      exact Nat.mul_le_mul (Nat.log2_self_le zero) (two_pow_le_powerOfTen e)
    · rfl
  | negSucc e =>
    change (if c.log2 + 1077 ≤ 3 * (e + 1) then 0 else _) = _
    split
    · next small =>
      symm
      apply nearest_eq_zero
      change 2 * (c * 1 * one) < powerOfTen (e + 1)
      calc 2 * (c * 1 * one) = 2 * c * one := by ring
        _ < 2 * 2 ^ (c.log2 + 1) * one := by
          have := Nat.lt_log2_self (n := c)
          exact Nat.mul_lt_mul_of_pos_right (by omega) one_pos
        _ = 2 ^ (c.log2 + 2 + unitPlaces) := by rw [one]; ring
        _ ≤ 2 ^ (3 * (e + 1)) := Nat.pow_le_pow_right (by decide) (by rw [unitPlaces_eq]; omega)
        _ ≤ powerOfTen (e + 1) := two_pow_le_powerOfTen _
    · rfl

/-- Decimals of equal value have the same nearest pattern. -/
theorem pattern_congr {a b : Decimal} (same : a.numerator * b.denominator = b.numerator * a.denominator) :
    a.pattern = b.pattern := by
  rw [pattern_eq_nearest, pattern_eq_nearest, nearest_congr a.denominator_pos b.denominator_pos same]

theorem pattern_le_infinity (d : Decimal) : d.pattern ≤ infinity :=
  d.pattern_eq_nearest ▸ nearest_le_infinity _ _

end Decimal

namespace Binary64

theorem pattern_exact {p : Nat} (h : p < infinity) : (exact p).pattern = p := by
  have numerator : (exact p).numerator = units p * 5 ^ unitPlaces := by
    change units p * Nat.pow 5 1074 * 1 = _
    rw [Nat.mul_one, ← unitPlaces_eq]
    rfl
  have denominator : (exact p).denominator = one * 5 ^ unitPlaces := by
    have places : (-(exact p).exponent).toNat = unitPlaces := by
      rw [unitPlaces_eq]
      rfl
    rw [Decimal.denominator, places, one, ← Nat.mul_pow]
    rfl
  rw [Decimal.pattern_eq_nearest, numerator, denominator, nearest_mul (Nat.pow_pos (by decide)), nearest_units h]

/-- The shortest decimal of a finite pattern rounds to that pattern. -/
theorem pattern_shortest {p : Nat} (h : p < infinity) : (shortest p).pattern = p := by
  rw [shortest]
  cases found : (List.range 20).findSome? fun (i : Nat) =>
      (neighbours p (topPlace p - i)).find? fun d => d.pattern == p with
  | none => exact pattern_exact h
  | some d =>
    obtain ⟨i, _, reads⟩ := List.exists_of_findSome?_eq_some found
    exact beq_iff_eq.mp (List.find?_some (p := fun d : Decimal => d.pattern == p) reads)

end Binary64
end Worksheet
