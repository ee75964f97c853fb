import Mathlib
import PaneLayout.Number.Binary64

/-!
# Signs and sizes of doubles

The double nearest to a whole number has the sign of the number, and it is
infinite if the number has more than 1024 bits.  Both follow from the way a
significand is rounded: as long as the result is not below the normal range, it
has exactly 53 bits, and its exponent is not less than that of the leading bits.
-/

namespace PaneLayout.Binary64

open Float.Model Float.Model.UnpackedFloat

/-! ### Rounding a significand -/

theorem shiftRight_mantissa (extended : ExtendedMantissa) (amount : Nat) :
    (extended >>> amount).mantissa = extended.mantissa / 2 ^ amount := by
  induction amount with
  | zero => simp [HShiftRight.hShiftRight, Nat.repeat]
  | succ amount induction =>
      change (extended >>> amount).mantissa / 2 = _
      rw [induction, Nat.div_div_eq_div_mul, Nat.pow_succ]

theorem roundedMantissa_bounds (extended : ExtendedMantissa) :
    extended.mantissa ≤ extended.roundedMantissa ∧
      extended.roundedMantissa ≤ extended.mantissa + 1 := by
  obtain ⟨mantissa, roundBit, stickyBit⟩ := extended
  cases roundBit <;> cases stickyBit <;>
    simp only [ExtendedMantissa.roundedMantissa, ExtendedMantissa.accuracy,
      Accuracy.roundToNearestEven] <;> omega

/-- The leading 53 bits of a number. -/
theorem leadingBits_log2 {mantissa : Nat} (wide : 52 ≤ mantissa.log2) :
    (mantissa / 2 ^ (mantissa.log2 - 52)).log2 = 52 := by
  have positive : mantissa ≠ 0 := by
    rintro rfl
    simp at wide
  have low := Nat.log2_self_le positive
  have high := @Nat.lt_log2_self mantissa
  have sameLow : 2 ^ mantissa.log2 = 2 ^ 52 * 2 ^ (mantissa.log2 - 52) := by
    rw [← Nat.pow_add]
    congr 1
    omega
  have sameHigh : 2 ^ (mantissa.log2 + 1) =
      2 ^ 53 * 2 ^ (mantissa.log2 - 52) := by
    rw [← Nat.pow_add]
    congr 1
    omega
  have unit : 0 < 2 ^ (mantissa.log2 - 52) := Nat.two_pow_pos _
  have atLeast : 2 ^ 52 ≤ mantissa / 2 ^ (mantissa.log2 - 52) := by
    rw [Nat.le_div_iff_mul_le unit, ← sameLow]
    exact low
  have below : mantissa / 2 ^ (mantissa.log2 - 52) < 2 ^ 53 := by
    rw [Nat.div_lt_iff_lt_mul unit, ← sameHigh]
    exact high
  exact (Nat.log2_eq_iff (by omega)).mpr ⟨atLeast, below⟩

theorem shiftToTargetExponent_eq {mantissa : Nat} (exponent : Int)
    (wide : 52 ≤ mantissa.log2) (high : -1022 ≤ mantissa.log2 + exponent) :
    (shiftToTargetExponent .binary64 mantissa exponent .exact).1.mantissa =
        mantissa / 2 ^ (mantissa.log2 - 52) ∧
      (shiftToTargetExponent .binary64 mantissa exponent .exact).2 =
        mantissa.log2 + exponent - 52 := by
  have least : Format.binary64.minExponent = -1074 := by decide
  have bits : (Format.binary64.mantissaBits : Int) = 53 := by decide
  have target : Format.binary64.targetExponent
      (totalExponent mantissa exponent) = mantissa.log2 + exponent - 52 := by
    rw [Format.targetExponent, totalExponent, least, bits]
    omega
  have amount : (mantissa.log2 + exponent - 52 - exponent).toNat =
      mantissa.log2 - 52 := by omega
  simp only [shiftToTargetExponent, shiftToExponent, target, amount,
    shiftRight_mantissa, ExtendedMantissa.ofMantissaAndAccuracy, true_and]
  omega

/-- A result that is not below the normal range gets 53 bits. -/
def IsNormal (sign : Sign) (leastExponent : Int) (x : UnpackedFloat) : Prop :=
  ∃ mantissa exponent positive, x = .finite sign mantissa exponent positive ∧
    mantissa.log2 = 52 ∧ leastExponent ≤ exponent

theorem roundWithAccuracy_isNormal (sign : Sign) (mantissa : Nat)
    (exponent : Int) (wide : 52 ≤ mantissa.log2)
    (high : -1022 ≤ mantissa.log2 + exponent) :
    IsNormal sign (mantissa.log2 + exponent - 52)
      (roundWithAccuracy .binary64 sign mantissa exponent .exact) := by
  obtain ⟨firstMantissa, firstExponent⟩ :=
    shiftToTargetExponent_eq exponent wide high
  unfold roundWithAccuracy
  generalize shiftToTargetExponent .binary64 mantissa exponent .exact = first
    at firstMantissa firstExponent
  obtain ⟨extended, shifted⟩ := first
  dsimp only at firstMantissa firstExponent ⊢
  obtain ⟨low, _⟩ := roundedMantissa_bounds extended
  have bits := leadingBits_log2 wide
  rw [← firstMantissa] at bits
  have nonzero : extended.mantissa ≠ 0 := by
    intro zero
    simp [zero] at bits
  have roundedWide : 52 ≤ extended.roundedMantissa.log2 := by
    rw [Nat.le_log2 (by omega)]
    exact Nat.le_trans ((Nat.le_log2 nonzero).mp bits.ge) low
  obtain ⟨lastMantissa, lastExponent⟩ :=
    shiftToTargetExponent_eq shifted roundedWide (by omega)
  have lastBits := leadingBits_log2 roundedWide
  rw [← lastMantissa] at lastBits
  rw [dif_neg (by intro zero; simp [zero] at lastBits)]
  exact ⟨_, _, _, rfl, lastBits, by omega⟩

/-! ### Packing -/

theorem unpack_packedInfinity (sign : Sign) :
    UnpackedFloat.unpack .binary64 (packedInfinity .binary64 sign) =
      .infinity sign := by
  unfold UnpackedFloat.unpack packedInfinity
  simp

/-- The bits of a significand, with the leading one put back. -/
theorem leadingBit_append {mantissa : Nat} (bits : mantissa.log2 = 52) :
    (1#1 ++ BitVec.ofNat 52 mantissa).toNat = mantissa := by
  have nonzero : mantissa ≠ 0 := by
    rintro rfl
    simp at bits
  obtain ⟨low, high⟩ := (Nat.log2_eq_iff nonzero).mp bits
  rw [BitVec.toNat_append, ← Nat.shiftLeft_add_eq_or_of_lt (BitVec.isLt _)]
  change 2 ^ 52 + mantissa % 2 ^ 52 = mantissa
  omega

/-- What a number of 53 bits is after packing: itself, or infinite. -/
theorem unpack_pack_of_log2 (sign : Sign) {mantissa : Nat} {exponent : Int}
    (positive : 0 < mantissa) (bits : mantissa.log2 = 52)
    (least : -1074 ≤ exponent) :
    (pack (.finite sign mantissa exponent positive)).unpack =
      if 972 ≤ exponent then
        .infinity sign
      else
        .finite sign mantissa exponent positive := by
  change UnpackedFloat.unpack .binary64 (UnpackedFloat.pack .binary64 _) = _
  have bias : (Format.binary64.exponentBias : Int) = 1023 := by decide
  have biased : (exponent + Format.binary64.exponentBias +
      (52 : Nat)).toNat = (exponent + 1075).toNat := by
    omega
  by_cases overflows : 972 ≤ exponent
  · rw [UnpackedFloat.pack, if_pos (by simp only [biased]; omega),
      if_pos overflows]
    exact unpack_packedInfinity sign
  · rw [UnpackedFloat.pack, if_neg (by simp only [biased]; omega),
      if_pos (by rw [bits]; rfl), if_neg overflows]
    unfold UnpackedFloat.unpack
    have field : (BitVec.ofNat 11 (exponent + 1075).toNat).toNat =
        (exponent + 1075).toNat := by
      rw [BitVec.toNat_ofNat]
      omega
    have notAll : BitVec.ofNat 11 (exponent + 1075).toNat ≠ -1#11 := by
      intro same
      have := congrArg BitVec.toNat same
      rw [field] at this
      simp at this
      omega
    have notNone : BitVec.ofNat 11 (exponent + 1075).toNat ≠ 0#11 := by
      intro same
      have := congrArg BitVec.toNat same
      rw [field] at this
      simp at this
      omega
    simp only [unpackMantissa_packComponents, unpackExponent_packComponents,
      unpackSign_packComponents, Sign.ofBitVec_toBitVec]
    simp only [biased]
    rw [if_neg notAll, if_neg notNone]
    simp only [UnpackedFloat.finite.injEq, leadingBit_append bits, field,
      true_and]
    omega

/-- A number of fewer bits with the least exponent is kept by packing. -/
theorem unpack_pack_of_subnormal (sign : Sign) {mantissa : Nat}
    (positive : 0 < mantissa) (small : mantissa < 2 ^ 52) :
    (pack (.finite sign mantissa (-1074) positive)).unpack =
      .finite sign mantissa (-1074) positive := by
  change UnpackedFloat.unpack .binary64 (UnpackedFloat.pack .binary64 _) = _
  have bits : mantissa.log2 < 52 := (Nat.log2_lt positive.ne').mpr small
  have biased : (-1074 + (Format.binary64.exponentBias : Int) +
      (52 : Nat)).toNat = 1 := by decide
  have fraction : (BitVec.ofNat 52 mantissa).toNat = mantissa := by
    rw [BitVec.toNat_ofNat, Nat.mod_eq_of_lt small]
  have notNone : BitVec.ofNat 52 mantissa ≠ 0#52 := by
    intro same
    have := congrArg BitVec.toNat same
    rw [fraction] at this
    simp at this
    omega
  rw [UnpackedFloat.pack, if_neg (by simp only [biased]; decide),
    if_neg (by change ¬ mantissa.log2 + 1 = 53; omega)]
  unfold UnpackedFloat.unpack
  simp only [unpackMantissa_packComponents, unpackExponent_packComponents,
    unpackSign_packComponents, Sign.ofBitVec_toBitVec]
  rw [if_neg (by decide), if_pos trivial, dif_neg notNone]
  simp only [UnpackedFloat.finite.injEq, fraction, true_and]
  decide

/-- What a normal number is after packing: itself, or infinite. -/
theorem unpack_pack_of_isNormal {sign : Sign} {leastExponent : Int}
    {x : UnpackedFloat} (normal : IsNormal sign leastExponent x)
    (representable : -1074 ≤ leastExponent) :
    (pack x).unpack = .infinity sign ∨
      leastExponent < 972 ∧ (pack x).unpack = x := by
  obtain ⟨mantissa, exponent, positive, rfl, bits, least⟩ := normal
  rw [unpack_pack_of_log2 sign positive bits (by omega)]
  by_cases overflows : 972 ≤ exponent
  · exact .inl (if_pos overflows)
  · exact .inr ⟨by omega, if_neg overflows⟩

/-! ### Whole numbers as doubles -/

/-- The double is normal or infinite. -/
def IsLarge (sign : Sign) (leastExponent : Int) (x : Float) : Prop :=
  x.toModel.unpack = .infinity sign ∨
    leastExponent < 972 ∧ IsNormal sign leastExponent x.toModel.unpack

theorem isLarge_ofModel {sign : Sign} {leastExponent : Int}
    {x : UnpackedFloat} (normal : IsNormal sign leastExponent x)
    (representable : -1074 ≤ leastExponent) :
    IsLarge sign leastExponent (.ofModel (pack x)) := by
  rcases unpack_pack_of_isNormal normal representable with
    infinite | ⟨bounded, same⟩
  · exact .inl infinite
  · refine .inr ⟨bounded, ?_⟩
    change IsNormal sign leastExponent (pack x).unpack
    rwa [same]

theorem log2_shiftLeft {n : Nat} (nonzero : n ≠ 0) (amount : Nat) :
    (n <<< amount).log2 = n.log2 + amount := by
  induction amount with
  | zero => rfl
  | succ amount induction =>
      have shifted : n <<< amount ≠ 0 := by
        simp [Nat.shiftLeft_eq, nonzero]
      rw [Nat.shiftLeft_succ, Nat.log2_two_mul shifted, induction,
        Nat.add_assoc]

/-- A number of fewer than 54 bits is shifted into place and then rounded. -/
theorem isLarge_toFloat {n : Nat} (positive : 0 < n) (small : n < 2 ^ 53) :
    IsLarge .positive (n.log2 - 52) n.toUInt64.toFloat := by
  have bits : n.log2 < 53 := (Nat.log2_lt positive.ne').mpr small
  have fits : n.toUInt64.toNat = n := by
    simp
    omega
  have least : Format.binary64.minExponent = -1074 := by decide
  have mantissaBits : (Format.binary64.mantissaBits : Int) = 53 := by decide
  have target : Format.binary64.targetExponent (totalExponent n 0) =
      n.log2 - 52 := by
    rw [Format.targetExponent, totalExponent, least, mantissaBits]
    omega
  have amount : (0 - ((n.log2 : Int) - 52)).toNat = 52 - n.log2 := by omega
  have shiftedBits : (n <<< (52 - n.log2)).log2 = 52 := by
    rw [log2_shiftLeft positive.ne']
    omega
  have whole : compare (n : Int) 0 = .gt :=
    Int.compare_eq_gt.mpr (by omega)
  refine isLarge_ofModel (x := .ofUInt64 .binary64 n.toUInt64) ?_ (by omega)
  simp only [UnpackedFloat.ofUInt64, UnpackedFloat.ofNat, UnpackedFloat.ofInt,
    UnpackedFloat.normalize, UnpackedFloat.round, fits, whole,
    Int.toNat_natCast, target, decreaseExponent, amount]
  have rounded := roundWithAccuracy_isNormal .positive
    (n <<< (52 - n.log2)) (0 - ↑(52 - n.log2))
    shiftedBits.ge (by omega)
  have sameExponent : (n <<< (52 - n.log2)).log2 + (0 - ↑(52 - n.log2)) - 52 =
      (n.log2 : Int) - 52 := by omega
  rwa [sameExponent] at rounded

/-- A larger number is read as a significand from which 53 bits are kept. -/
theorem isLarge_ofScientific {n : Nat} (positive : 0 < n) :
    IsLarge .positive (n.log2 - 52) (.ofModel (.ofScientific n 0)) := by
  refine isLarge_ofModel (x := .ofScientific .binary64 n 0) ?_ (by omega)
  have bits : (2 ^ Format.binary64.exponentBits : Int) = 2048 := by decide
  have mantissaBits : Format.binary64.mantissaBits = 53 := by decide
  have shiftedBits : (n <<< 53 * 10 ^ (0 : Int).toNat).log2 = n.log2 + 53 := by
    rw [Int.toNat_zero, Nat.pow_zero, Nat.mul_one,
      log2_shiftLeft positive.ne']
  rw [UnpackedFloat.ofScientific, dif_neg positive.ne', if_neg (by decide),
    if_neg (by omega), if_pos (Int.le_refl 0)]
  simp only [UnpackedFloat.mul, mantissaBits]
  have rounded := roundWithAccuracy_isNormal .positive
    (n <<< 53 * 10 ^ (0 : Int).toNat) (-53 + 0)
    (by omega) (by omega)
  rw [shiftedBits] at rounded
  have sameExponent : ((n.log2 + 53 : Nat) : Int) + (-53 + 0) - 52 =
      n.log2 - 52 := by omega
  rwa [sameExponent] at rounded

theorem isLarge_mul_one {n : Nat} {x : Float}
    (large : IsLarge .positive (n.log2 - 52) x) :
    IsLarge .positive (n.log2 - 52) (x * Float.ofBits 0x3FF0000000000000) := by
  have one : (Float.ofBits 0x3FF0000000000000).toModel.unpack =
      .finite .positive (2 ^ 52) (-52) (Nat.two_pow_pos 52) := rfl
  change IsLarge _ _ (.ofModel (pack (UnpackedFloat.mul .binary64
    x.toModel.unpack (Float.ofBits 0x3FF0000000000000).toModel.unpack)))
  rw [one]
  rcases large with infinite | ⟨_, mantissa, exponent, positive, same, bits,
    least⟩
  · rw [infinite]
    exact .inl (unpack_packedInfinity .positive)
  · rw [same]
    have nonzero : mantissa ≠ 0 := positive.ne'
    have product : (mantissa * 2 ^ 52).log2 = 104 := by
      rw [← Nat.shiftLeft_eq, log2_shiftLeft nonzero, bits]
    have rounded := roundWithAccuracy_isNormal .positive
      (mantissa * 2 ^ 52) (exponent + -52)
      (by omega) (by omega)
    obtain ⟨_, _, _, sameProduct, productBits, productLeast⟩ := rounded
    refine isLarge_ofModel ⟨_, _, _, sameProduct, productBits, ?_⟩ (by omega)
    omega

theorem isLarge_ofNat {n : Nat} (positive : 0 < n) :
    IsLarge .positive (n.log2 - 52) (Float.ofNat n) := by
  change IsLarge _ _ (Float.ofScientific n false 0)
  unfold Float.ofScientific
  by_cases small : n < 2 ^ 53
  · rw [dif_pos ⟨small, by decide⟩]
    exact isLarge_mul_one (isLarge_toFloat positive small)
  · rw [dif_neg fun both => small both.1]
    exact isLarge_ofScientific positive

theorem isLarge_neg {sign : Sign} {leastExponent : Int} {x : Float}
    (large : IsLarge sign leastExponent x)
    (representable : -1074 ≤ leastExponent) :
    IsLarge (-sign) leastExponent (-x) := by
  change IsLarge _ _ (.ofModel (pack x.toModel.unpack.neg))
  rcases large with infinite | ⟨_, mantissa, exponent, positive, same, bits,
    least⟩
  · rw [infinite]
    exact .inl (unpack_packedInfinity (-sign))
  · rw [same]
    exact isLarge_ofModel ⟨_, _, _, rfl, bits, least⟩ representable

theorem isLarge_ofInt {n : Int} (nonzero : n ≠ 0) :
    IsLarge (if 0 < n then .positive else .negative) (n.natAbs.log2 - 52)
      (Float.ofInt n) := by
  cases n with
  | ofNat n =>
      have positive : 0 < n := Nat.pos_of_ne_zero (by simpa using nonzero)
      rw [if_pos (show 0 < Int.ofNat n from Int.natCast_pos.mpr positive)]
      exact isLarge_ofNat positive
  | negSucc n =>
      rw [if_neg (by omega)]
      exact isLarge_neg (isLarge_ofNat n.succ_pos) (by omega)

theorem le_iff (x y : Float) :
    x ≤ y ↔ x.toModel.unpack.le y.toModel.unpack = true := by
  change decide (x.toModel.unpack.le y.toModel.unpack = true) = true ↔ _
  exact decide_eq_true_iff

theorem lt_iff (x y : Float) :
    x < y ↔ x.toModel.unpack.lt y.toModel.unpack = true := by
  change decide (x.toModel.unpack.lt y.toModel.unpack = true) = true ↔ _
  exact decide_eq_true_iff

/-- The double nearest to a whole number has its sign. -/
theorem ofInt_le_zero_iff (n : Int) : Float.ofInt n ≤ 0 ↔ n ≤ 0 := by
  have zero : (0 : Float).toModel.unpack = .zero .positive := rfl
  rw [le_iff, zero, UnpackedFloat.le]
  rcases Int.lt_trichotomy n 0 with negative | rfl | positive
  · rcases isLarge_ofInt negative.ne with infinite | ⟨_, _, _, _, same, _⟩
    · rw [infinite, if_neg (by omega)]
      simpa [UnpackedFloat.compare] using negative.le
    · rw [same, if_neg (by omega)]
      simpa [UnpackedFloat.compare] using negative.le
  · exact iff_of_true rfl (Int.le_refl 0)
  · rcases isLarge_ofInt positive.ne' with infinite | ⟨_, _, _, _, same, _⟩
    · rw [infinite, if_pos positive]
      simpa [UnpackedFloat.compare] using positive
    · rw [same, if_pos positive]
      simpa [UnpackedFloat.compare] using positive

/-- A whole number whose nearest double is finite has at most 1024 bits. -/
theorem log2_lt_of_isFinite {n : Int} (finite : (Float.ofInt n).isFinite) :
    n.natAbs.log2 < 1024 := by
  by_cases zero : n = 0
  · simp [zero]
  · rcases isLarge_ofInt zero with infinite | ⟨bounded, _⟩
    · change UnpackedFloat.isFinite (Float.ofInt n).toModel.unpack = true
        at finite
      rw [infinite] at finite
      cases finite
    · omega

/-! ### Finite doubles -/

theorem ofInt_eq_ok_iff {n : Int} {x : Float} :
    ofInt n = .ok x ↔ (Float.ofInt n).isFinite ∧ Float.ofInt n = x := by
  change (if (Float.ofInt n).isFinite then .ok (Float.ofInt n)
    else .error .numberTooLarge : Except Fault Float) = .ok x ↔ _
  split <;> simp_all

theorem dyadic?_of_isFinite {x : Float} (finite : x.isFinite) :
    ∃ value, dyadic? x = some value := by
  change UnpackedFloat.isFinite x.toModel.unpack = true at finite
  unfold dyadic?
  cases unpacked : x.toModel.unpack with
  | notANumber => simp [unpacked, UnpackedFloat.isFinite] at finite
  | infinity sign => simp [unpacked, UnpackedFloat.isFinite] at finite
  | zero sign => exact ⟨_, rfl⟩
  | finite sign mantissa exponent positive => exact ⟨_, rfl⟩

theorem pos_iff_of_isFinite {x : Float} (finite : x.isFinite) :
    0 < x ↔ ¬ x ≤ 0 := by
  have zero : (0 : Float).toModel.unpack = .zero .positive := rfl
  change UnpackedFloat.isFinite x.toModel.unpack = true at finite
  rw [lt_iff, le_iff, zero]
  cases unpacked : x.toModel.unpack with
  | notANumber => simp [unpacked, UnpackedFloat.isFinite] at finite
  | infinity sign => simp [unpacked, UnpackedFloat.isFinite] at finite
  | zero sign =>
      simp [UnpackedFloat.lt, UnpackedFloat.le, UnpackedFloat.compare]
  | finite sign mantissa exponent positive =>
      cases sign <;>
        simp [UnpackedFloat.lt, UnpackedFloat.le, UnpackedFloat.compare]

end PaneLayout.Binary64
