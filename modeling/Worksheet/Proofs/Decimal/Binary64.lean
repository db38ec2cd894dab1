import Worksheet.Decimal.Binary64
import Mathlib

/-! Doubles and their bit patterns. A finite double is determined by its sign and its pattern, and the
finite patterns are those below the pattern of infinity. -/
namespace Worksheet.Binary64
open Float.Model.UnpackedFloat

theorem unpackExponent_toNat (b : BitVec 64) :
    (@unpackExponent .binary64 b).toNat = b.toNat / 2 ^ 52 % 2 ^ 11 := by
  simp [unpackExponent, Nat.shiftRight_eq_div_pow]

theorem unpackExponent_eq_iff (b : BitVec 64) :
    @unpackExponent .binary64 b = -1#11 ↔ infinity ≤ b.toNat % signBit := by
  rw [← BitVec.toNat_inj, unpackExponent_toNat]
  have := b.isLt
  simp only [infinity, signBit]
  change _ = 2047 ↔ _
  omega

theorem unpackMantissa_toNat (b : BitVec 64) :
    (@unpackMantissa .binary64 b).toNat = b.toNat % 2 ^ 52 := by
  simp [unpackMantissa]

theorem unpackSign_toNat (b : BitVec 64) :
    (@unpackSign .binary64 b).toNat = b.toNat / signBit % 2 := by
  simp [unpackSign, Nat.shiftRight_eq_div_pow, signBit]

theorem isFinite_unpack_iff (b : BitVec 64) :
    (unpack .binary64 b).isFinite = true ↔ @unpackExponent .binary64 b ≠ -1#11 := by
  rw [unpack]
  by_cases top : @unpackExponent .binary64 b = -1#11
  · refine iff_of_false ?_ (not_not.mpr top)
    simp only [top, if_true]
    split <;> exact nofun
  · refine iff_of_true ?_ top
    simp only [top, if_false]
    split
    · split <;> rfl
    · rfl

theorem isFinite_iff (x : Float) : x.isFinite = true ↔ pattern x < infinity := by
  have bits := isFinite_unpack_iff x.toBits.toBitVec
  rw [ne_eq, unpackExponent_eq_iff, not_le] at bits
  exact bits

theorem isNaN_isInf_of_isFinite {x : Float} (h : x.isFinite = true) :
    x.isNaN = false ∧ x.isInf = false := by
  change x.toModel.unpack.isFinite = true at h
  change x.toModel.unpack.isNaN = false ∧ x.toModel.unpack.isInf = false
  cases hu : x.toModel.unpack <;> rw [hu] at h <;>
    simp_all [Float.Model.UnpackedFloat.isFinite, Float.Model.UnpackedFloat.isNaN, Float.Model.UnpackedFloat.isInf]

theorem ofBits_toBits (x : Float) : Float.ofBits x.toBits = x := by
  obtain ⟨⟨bits, valid⟩⟩ := x
  have packed : pack .binary64 (unpack .binary64 bits.toBitVec) = bits.toBitVec := pack_unpack_of_valid valid
  have same : UInt64.ofBitVec (pack .binary64 (unpack .binary64 bits.toBitVec)) = bits := by rw [packed]
  simp only [Float.ofBits, Float.toBits, Float.Model.ofBits, Float.Model.pack, same]

theorem toBits_ofBits {b : UInt64} (h : b.toNat % signBit ≤ infinity) : (Float.ofBits b).toBits = b := by
  have number : @isNaNBits .binary64 b.toBitVec = false := by
    rw [isNaNBits, decide_eq_false_iff_not]
    rintro ⟨exponent, mantissa⟩
    rw [unpackExponent_eq_iff] at exponent
    apply mantissa
    rw [← BitVec.toNat_inj, unpackMantissa_toNat]
    change infinity ≤ b.toNat % signBit at exponent
    change b.toNat % 2 ^ 52 = 0
    simp only [infinity, signBit] at *
    omega
  have packed : pack .binary64 (unpack .binary64 b.toBitVec) = b.toBitVec := by
    rw [pack_unpack, number]
    rfl
  change UInt64.ofBitVec (pack .binary64 (unpack .binary64 b.toBitVec)) = b
  rw [packed]

/-- A double is recovered from its sign and its pattern. -/
theorem toFloat_pattern (x : Float) : toFloat (isNegative x) (pattern x) = x := by
  have same : UInt64.ofNat (pattern x + if isNegative x then signBit else 0) = x.toBits := by
    have := x.toBits.toNat_lt
    apply UInt64.toNat.inj
    rw [UInt64.toNat_ofNat', pattern, isNegative]
    by_cases sign : signBit ≤ x.toBits.toNat
    · rw [decide_eq_true sign, if_pos rfl]
      simp only [signBit] at *
      omega
    · rw [decide_eq_false sign, if_neg Bool.false_ne_true]
      simp only [signBit] at *
      omega
  rw [toFloat, same, ofBits_toBits]

section
variable {negative : Bool} {p : Nat} (h : p ≤ infinity)
include h

theorem toNat_toBits_toFloat : (toFloat negative p).toBits.toNat = p + if negative then signBit else 0 := by
  have bits : (UInt64.ofNat (p + if negative then signBit else 0)).toNat =
      p + if negative then signBit else 0 := by
    rw [UInt64.toNat_ofNat']
    simp only [infinity, signBit] at *
    split <;> omega
  have bounded : (p + if negative then signBit else 0) % signBit ≤ infinity := by
    simp only [infinity, signBit] at *
    split <;> omega
  rw [← bits] at bounded
  rw [toFloat, toBits_ofBits bounded, bits]

theorem pattern_toFloat : pattern (toFloat negative p) = p := by
  rw [pattern, toNat_toBits_toFloat h]
  simp only [infinity, signBit] at *
  split <;> omega

theorem isNegative_toFloat : isNegative (toFloat negative p) = negative := by
  rw [isNegative, toNat_toBits_toFloat h]
  simp only [infinity, signBit] at *
  cases negative with
  | false => simpa using by omega
  | true => simp

end

/-- Equality under comparison implies identity, except for zeros of different sign. -/
theorem eq_of_compare {u v : Float.Model.UnpackedFloat} (h : u.compare v = some .eq)
    (zero : ∀ s t, u = .zero s → v = .zero t → s = t) : u = v := by
  cases u with
  | notANumber => cases h
  | infinity s =>
    cases v with
    | infinity t => cases s <;> cases t <;> simp_all [Float.Model.UnpackedFloat.compare, compare]
    | notANumber | zero _ | finite _ _ _ _ => cases s <;> cases h
  | zero s =>
    cases v with
    | zero t => rw [zero s t rfl rfl]
    | notANumber => cases h
    | infinity t | finite t _ _ _ => cases t <;> cases h
  | finite s m e pos =>
    cases v with
    | finite t n k pos' =>
      cases s <;> cases t <;>
        simp_all [Float.Model.UnpackedFloat.compare, Ordering.swap_eq_eq, Ordering.then_eq_eq]
    | notANumber => cases s <;> cases h
    | zero t => cases s <;> cases h
    | infinity t => cases s <;> cases t <;> cases h

theorem sign_of_unpack {b : BitVec 64} {s : Sign} (h : unpack .binary64 b = .zero s) :
    s = .ofBitVec (@unpackSign .binary64 b) := by
  rw [unpack] at h
  split at h
  · split at h <;> cases h
  · split at h
    · split at h <;> cases h
      rfl
    · cases h

theorem unpackSign_eq {x y : Float} (sign : isNegative x = isNegative y) :
    @unpackSign .binary64 x.toBits.toBitVec = @unpackSign .binary64 y.toBits.toBitVec := by
  have hx := x.toBits.toNat_lt
  have hy := y.toBits.toNat_lt
  rw [isNegative, isNegative, decide_eq_decide] at sign
  rw [← BitVec.toNat_inj, unpackSign_toNat, unpackSign_toNat]
  change x.toBits.toNat / signBit % 2 = y.toBits.toNat / signBit % 2
  simp only [signBit] at *
  omega

theorem unpack_injective {x y : Float} (h : x.toModel.unpack = y.toModel.unpack) : x = y := by
  have bits : x.toBits.toBitVec = y.toBits.toBitVec := by
    have packed (z : Float) : pack .binary64 z.toModel.unpack = z.toBits.toBitVec :=
      pack_unpack_of_valid z.toModel.valid
    rw [← packed x, ← packed y, h]
  rw [← ofBits_toBits x, ← ofBits_toBits y, UInt64.toBitVec_inj.mp bits]

theorem compare_self {u : Float.Model.UnpackedFloat} (h : u.isFinite = true) : u.compare u = some .eq := by
  cases u with
  | notANumber | infinity _ => cases h
  | zero _ => rfl
  | finite s m e pos => cases s <;> simp [Float.Model.UnpackedFloat.compare]

/-- For finite numbers of the same sign, floating-point equality is equality of bits. -/
theorem beq_iff_of_sign {x y : Float} (finite : x.isFinite = true) (sign : isNegative x = isNegative y) :
    (x == y) = true ↔ x = y := by
  change (x.toModel.unpack.compare y.toModel.unpack == some .eq) = true ↔ _
  rw [beq_iff_eq]
  constructor
  · intro h
    refine unpack_injective (eq_of_compare h fun s t hs ht => ?_)
    rw [sign_of_unpack hs, sign_of_unpack ht]
    exact congrArg Sign.ofBitVec (unpackSign_eq sign)
  · rintro rfl
    exact compare_self finite

end Worksheet.Binary64
