import Worksheet.Decimal.Positional
import Worksheet.Proofs.Decimal.Numeral
import Worksheet.Proofs.Decimal.Rounding

/-! The positional notation of a decimal is the text of a literal with the same value. -/
namespace Worksheet.Decimal

theorem append_replicate_zero (cs : List Char) :
    (cs.reverse.dropWhile (· == '0')).reverse ++
      List.replicate (cs.length - (cs.reverse.dropWhile (· == '0')).reverse.length) '0' = cs := by
  have zeros : cs.reverse.takeWhile (· == '0') =
      List.replicate (cs.reverse.takeWhile (· == '0')).length '0' :=
    List.eq_replicate_of_mem fun c hc => beq_iff_eq.mp (List.mem_takeWhile_imp (p := (· == '0')) hc)
  have cut := cs.reverse.takeWhile_append_dropWhile (p := (· == '0'))
  have count := congrArg List.length cut
  rw [List.length_append, List.length_reverse] at count
  rw [List.length_reverse, ← count, Nat.add_sub_cancel]
  conv_rhs => rw [← cs.reverse_reverse, ← cut, List.reverse_append, zeros, List.reverse_replicate]

theorem ofDigitChars_fractionDigits {n places : Nat} (h : n < 10 ^ places) :
    (fractionDigits n places).length ≤ places ∧
      10 ^ (places - (fractionDigits n places).length) * Nat.ofDigitChars 10 (fractionDigits n places) 0 = n := by
  cases places with
  | zero =>
    rw [Nat.lt_one_iff.mp h]
    decide
  | succ places =>
    have fits := (Nat.length_toDigits_le_iff (by decide) (Nat.succ_pos places)).mpr h
    have whole := append_replicate_zero
      (List.replicate (places + 1 - (Nat.toDigits 10 n).length) '0' ++ Nat.toDigits 10 n)
    rw [List.length_append, List.length_replicate, Nat.sub_add_cancel fits] at whole
    rw [fractionDigits]
    generalize (((List.replicate _ '0' ++ Nat.toDigits 10 n).reverse).dropWhile _).reverse = kept at whole ⊢
    have count := congrArg List.length whole
    have value := congrArg (Nat.ofDigitChars 10 · 0) whole
    simp only [List.length_append, List.length_replicate, Nat.ofDigitChars_append,
      Nat.ofDigitChars_replicate_zero, Nat.mul_zero, Nat.ofDigitChars_ten_toDigits] at count value
    exact ⟨by omega, value⟩

theorem isDigit_of_mem_fractionDigits {n places : Nat} {c : Char} (h : c ∈ fractionDigits n places) :
    c.isDigit = true := by
  rw [fractionDigits, List.mem_reverse] at h
  have padded := List.mem_reverse.mp ((List.dropWhile_sublist _).mem h)
  rcases List.mem_append.mp padded with zero | digit
  · rw [List.eq_of_mem_replicate zero]
    decide
  · exact Nat.isDigit_of_mem_toDigits (by decide) (by decide) digit

/-- The digits after the point; `none` for a whole number. -/
def fraction? (d : Decimal) : Option (List Char) :=
  match fractionDigits (d.numerator % d.denominator) (-d.exponent).toNat with
  | [] => none
  | digits => some digits

theorem getD_fraction? (d : Decimal) :
    d.fraction?.getD [] = fractionDigits (d.numerator % d.denominator) (-d.exponent).toNat := by
  rw [fraction?]
  split
  · next none => exact none.symm
  · rfl

/-- The literal whose text is the positional notation. -/
def numeral (d : Decimal) : Numeral := ⟨Nat.toDigits 10 (d.numerator / d.denominator), d.fraction?, none⟩

theorem positional_eq (d : Decimal) : d.positional = d.numeral.text := by
  rw [positional, Numeral.text, numeral, fraction?]
  generalize fractionDigits _ _ = digits
  cases digits <;> simp [Numeral.pointText]

theorem exists_getLast?_positional (d : Decimal) : ∃ c ∈ d.positional.getLast?, c.isDigit = true := by
  rw [positional]
  split
  · exact Text.exists_getLast? Nat.toDigits_ne_nil
      fun c hc => Nat.isDigit_of_mem_toDigits (by decide) (by decide) hc
  · next some =>
    obtain ⟨c, last, digit⟩ := Text.exists_getLast? some fun c hc => isDigit_of_mem_fractionDigits hc
    refine ⟨c, ?_, digit⟩
    rw [List.append_cons]
    exact List.mem_getLast?_append_of_mem_getLast? last

theorem wellFormed_numeral (d : Decimal) : d.numeral.WellFormed := by
  refine ⟨fun c hc => ?_, fun digits hd c hc => ?_, nofun, ?_⟩
  · exact Nat.isDigit_of_mem_toDigits (by decide) (by decide) hc
  · have same := d.getD_fraction?
    rw [show d.fraction? = some digits from hd, Option.getD_some] at same
    exact isDigit_of_mem_fractionDigits (same ▸ hc)
  · exact List.append_ne_nil_of_left_ne_nil Nat.toDigits_ne_nil _

theorem value_numeral_eq (d : Decimal) : d.numeral.value =
    ⟨10 ^ (d.fraction?.getD []).length * (d.numerator / d.denominator) +
        Nat.ofDigitChars 10 (d.fraction?.getD []) 0,
      -(d.fraction?.getD []).length⟩ := by
  rw [Numeral.value, Numeral.digits, numeral, Nat.ofDigitChars_append, Nat.ofDigitChars_ten_toDigits,
    Nat.ofDigitChars_eq_ofDigitChars_zero, Option.map_none, Option.getD_none, zero_sub]

theorem value_numeral (d : Decimal) : d.numeral.value.numerator * d.denominator =
    d.numerator * d.numeral.value.denominator := by
  have small : d.numerator % d.denominator < 10 ^ (-d.exponent).toNat := Nat.mod_lt _ d.denominator_pos
  obtain ⟨short, fraction⟩ := ofDigitChars_fractionDigits small
  have split := Nat.div_add_mod d.numerator d.denominator
  rw [← getD_fraction?] at short fraction
  rw [value_numeral_eq, numerator, denominator, powerOfTen_eq, powerOfTen_eq]
  generalize (d.fraction?.getD []).length = k at *
  generalize Nat.ofDigitChars 10 (d.fraction?.getD []) 0 = digits at *
  have place : d.denominator = 10 ^ k * 10 ^ ((-d.exponent).toNat - k) := by
    rw [← Nat.pow_add, Nat.add_sub_cancel' short]
    rfl
  have tail : digits * d.denominator = 10 ^ k * (d.numerator % d.denominator) := by
    rw [← fraction, place]
    ring
  calc (10 ^ k * (d.numerator / d.denominator) + digits) * 10 ^ (-(k : Int)).toNat * d.denominator
      = 10 ^ k * (d.denominator * (d.numerator / d.denominator)) + digits * d.denominator := by
        rw [Int.toNat_neg_natCast]
        ring
    _ = 10 ^ k * (d.denominator * (d.numerator / d.denominator) + d.numerator % d.denominator) := by
        rw [tail, Nat.mul_add]
    _ = d.numerator * 10 ^ (- -(k : Int)).toNat := by
        rw [split, neg_neg, Int.toNat_natCast, Nat.mul_comm]

/-- Positional notation does not affect the nearest pattern. -/
theorem pattern_value_numeral (d : Decimal) : d.numeral.value.pattern = d.pattern :=
  pattern_congr d.value_numeral

end Worksheet.Decimal
