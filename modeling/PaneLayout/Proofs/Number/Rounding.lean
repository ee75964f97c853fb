import PaneLayout.Proofs.Number.Binary64

/-!
# Rounding to doubles

The exact result of an operation on doubles is brought into the format by
keeping the leading bits of its significand.  What is used of that here is that
rounding never crosses a number that the format has: a result stays on the side
of such a number on which the exact value is.  Hence exact results that the
format has are not changed, and bounds that it has carry over.
-/

namespace PaneLayout.Binary64

open Float.Model Float.Model.UnpackedFloat

/-! ### Exact values -/

/-- The exact value of an unpacked number, if it is finite. -/
def exactValue? : UnpackedFloat → Option ℚ
  | .zero _ => some 0
  | .finite sign mantissa exponent _ =>
      some (sign.apply mantissa * 2 ^ exponent)
  | .infinity _ => none
  | .notANumber => none

/-- The exact value of a double, if it is finite. -/
def value? (x : Float) : Option ℚ :=
  exactValue? x.toModel.unpack

/-- The double is positive infinity or not below a bound. -/
def AtLeast (bound : ℚ) (x : Float) : Prop :=
  x.toModel.unpack = .infinity .positive ∨
    ∃ value, value? x = some value ∧ bound ≤ value

/-- The double is negative infinity or not above a bound. -/
def AtMost (bound : ℚ) (x : Float) : Prop :=
  x.toModel.unpack = .infinity .negative ∨
    ∃ value, value? x = some value ∧ value ≤ bound

/-- A number that the format has. -/
structure Representable (r : ℚ) : Prop where
  digits : ∃ significand exponent : ℤ, |significand| ≤ 2 ^ 53 ∧
    -1074 ≤ exponent ∧ r = significand * 2 ^ exponent
  bounded : |r| < 2 ^ 1024

/-- The double is not separated from the exact value by a number that the format
has. -/
structure Rounds (exact : ℚ) (x : Float) : Prop where
  atLeast : ∀ r, Representable r → r ≤ exact → AtLeast r x
  atMost : ∀ r, Representable r → exact ≤ r → AtMost r x

theorem value_between {low high : ℚ} {x : Float} (above : AtLeast low x)
    (below : AtMost high x) :
    ∃ value, value? x = some value ∧ low ≤ value ∧ value ≤ high := by
  rcases above with infinite | ⟨value, isValue, low⟩
  · rcases below with other | ⟨value, isValue, _⟩
    · rw [infinite] at other
      cases other
    · rw [value?, infinite] at isValue
      cases isValue
  · rcases below with infinite | ⟨other, isOther, high⟩
    · rw [value?, infinite] at isValue
      cases isValue
    · rw [isValue] at isOther
      cases isOther
      exact ⟨value, isValue, low, high⟩

theorem Rounds.between {exact low high : ℚ} {x : Float}
    (rounds : Rounds exact x) (hasLow : Representable low)
    (hasHigh : Representable high) (above : low ≤ exact)
    (below : exact ≤ high) :
    ∃ value, value? x = some value ∧ low ≤ value ∧ value ≤ high :=
  value_between (rounds.atLeast low hasLow above)
    (rounds.atMost high hasHigh below)

theorem Rounds.value_le {exact value r : ℚ} {x : Float}
    (rounds : Rounds exact x) (isValue : value? x = some value)
    (has : Representable r) (below : exact ≤ r) : value ≤ r := by
  rcases rounds.atMost r has below with infinite | ⟨other, isOther, high⟩
  · rw [value?, infinite] at isValue
    cases isValue
  · rw [isValue] at isOther
    cases isOther
    exact high

theorem rounds_of_value {value : ℚ} {x : Float}
    (isValue : value? x = some value) : Rounds value x where
  atLeast _ _ above := .inr ⟨value, isValue, above⟩
  atMost _ _ below := .inr ⟨value, isValue, below⟩

theorem Rounds.eq {exact : ℚ} {x : Float} (rounds : Rounds exact x)
    (has : Representable exact) : value? x = some exact := by
  obtain ⟨value, isValue, above, below⟩ :=
    rounds.between has has le_rfl le_rfl
  rw [isValue, le_antisymm below above]

/-! ### Numbers that the format has -/

theorem Representable.neg {r : ℚ} (has : Representable r) :
    Representable (-r) := by
  obtain ⟨⟨significand, exponent, bits, least, same⟩, bounded⟩ := has
  refine ⟨⟨-significand, exponent, by rwa [abs_neg], least, ?_⟩,
    by rwa [abs_neg]⟩
  rw [same, Int.cast_neg, neg_mul]

theorem representable_of_int {n : ℤ} (small : |n| ≤ 2 ^ 53) :
    Representable n := by
  refine ⟨⟨n, 0, small, by omega, by simp⟩, ?_⟩
  have cast : |(n : ℚ)| ≤ 2 ^ 53 := by exact_mod_cast small
  exact cast.trans_lt (pow_lt_pow_right₀ one_lt_two (by norm_num))

theorem representable_zero : Representable 0 := by
  simpa using representable_of_int (n := 0) (by norm_num)

theorem representable_of_nat {n : ℕ} (small : n ≤ 2 ^ 53) :
    Representable n := by
  have cast : |(n : ℤ)| ≤ 2 ^ 53 := by
    rw [Nat.abs_cast]
    exact_mod_cast small
  simpa using representable_of_int cast

/-- A power of two as a factor does not change the digits. -/
theorem Representable.mul_two_pow {r : ℚ} (has : Representable r) (power : ℕ)
    (bounded : |r * 2 ^ power| < 2 ^ 1024) : Representable (r * 2 ^ power) := by
  obtain ⟨⟨significand, exponent, bits, least, rfl⟩, _⟩ := has
  refine ⟨⟨significand, exponent + power, bits, by omega, ?_⟩, bounded⟩
  rw [zpow_add₀ two_ne_zero, zpow_natCast, mul_assoc]

theorem representable_two_pow {power : ℕ} (small : power < 1024) :
    Representable (2 ^ power) := by
  have one := representable_of_nat (n := 1) (by norm_num)
  have bounded : |((1 : ℕ) : ℚ) * 2 ^ power| < 2 ^ 1024 := by
    rw [Nat.cast_one, one_mul, abs_of_pos (by positivity)]
    exact pow_lt_pow_right₀ one_lt_two small
  simpa using one.mul_two_pow power bounded

/-- A number that the format has is a multiple of a unit or small. -/
theorem Representable.multiple_or_le {r : ℚ} (has : Representable r)
    (unit : ℤ) : (∃ n : ℤ, r = n * 2 ^ unit) ∨
      -1074 < unit ∧ |r| ≤ 2 ^ 52 * 2 ^ unit := by
  obtain ⟨⟨significand, exponent, bits, least, rfl⟩, _⟩ := has
  by_cases coarse : unit ≤ exponent
  · refine .inl ⟨significand * 2 ^ (exponent - unit).toNat, ?_⟩
    have power : (2 : ℚ) ^ exponent =
        2 ^ (exponent - unit).toNat * 2 ^ unit := by
      rw [← zpow_natCast, ← zpow_add₀ two_ne_zero, Int.toNat_sub_of_le coarse]
      simp
    rw [power]
    push_cast
    ring
  · refine .inr ⟨by omega, ?_⟩
    have digits : |(significand : ℚ)| ≤ 2 ^ 53 := by exact_mod_cast bits
    have power : (2 : ℚ) ^ exponent ≤ 2 ^ (unit - 1) :=
      zpow_le_zpow_right₀ one_le_two (by omega)
    have half : (2 : ℚ) ^ (53 : ℕ) * 2 ^ (unit - 1) =
        2 ^ (52 : ℕ) * 2 ^ unit := by
      rw [zpow_sub_one₀ two_ne_zero]
      ring
    rw [abs_mul, abs_of_pos (zpow_pos (two_pos (α := ℚ)) exponent), ← half]
    exact mul_le_mul digits power (by positivity) (by positivity)

theorem Representable.multiple {r : ℚ} (has : Representable r) :
    ∃ n : ℤ, r = n * 2 ^ (-1074 : ℤ) := by
  rcases has.multiple_or_le (-1074) with multiple | ⟨coarse, _⟩
  · exact multiple
  · omega

theorem representable_mul_zpow {n unit : ℤ} (least : -1074 ≤ unit)
    (nonneg : 0 ≤ n) (digits : n ≤ 2 ^ 53)
    (bounded : n * (2 : ℚ) ^ unit < 2 ^ 1024) :
    Representable (n * 2 ^ unit) := by
  refine ⟨⟨n, unit, by rwa [abs_of_nonneg nonneg], least, rfl⟩, ?_⟩
  have cast : (0 : ℚ) ≤ n := by exact_mod_cast nonneg
  rwa [abs_of_nonneg (by positivity)]

/-- The multiples of a unit on both sides of an exact value. -/
theorem exists_multiples {exact : ℚ} {unit : ℤ} (least : -1074 ≤ unit)
    (nonneg : 0 ≤ exact) (digits : exact ≤ 2 ^ 53 * 2 ^ unit)
    (bounded : exact + 2 ^ unit < 2 ^ 1024) :
    ∃ low high, Representable low ∧ Representable high ∧
      exact - 2 ^ unit ≤ low ∧ low ≤ exact ∧ exact ≤ high ∧
        high ≤ exact + 2 ^ unit := by
  have positive : (0 : ℚ) < 2 ^ unit := zpow_pos two_pos unit
  obtain ⟨scaled, rfl⟩ : ∃ scaled, exact = scaled * 2 ^ unit :=
    ⟨exact / 2 ^ unit, (div_mul_cancel₀ _ positive.ne').symm⟩
  have scaledNonneg : 0 ≤ scaled := nonneg_of_mul_nonneg_left nonneg positive
  have scaledDigits : scaled ≤ 2 ^ 53 := le_of_mul_le_mul_right digits positive
  have ceilDigits : ⌈scaled⌉ ≤ 2 ^ 53 :=
    Int.ceil_le.mpr (by exact_mod_cast scaledDigits)
  have lowBound : (⌊scaled⌋ : ℚ) * 2 ^ unit ≤ scaled * 2 ^ unit :=
    mul_le_mul_of_nonneg_right (Int.floor_le scaled) positive.le
  have highBound :
      (⌈scaled⌉ : ℚ) * 2 ^ unit ≤ scaled * 2 ^ unit + 2 ^ unit := by
    rw [← add_one_mul]
    exact mul_le_mul_of_nonneg_right (Int.ceil_lt_add_one scaled).le positive.le
  refine ⟨⌊scaled⌋ * 2 ^ unit, ⌈scaled⌉ * 2 ^ unit,
    representable_mul_zpow least (Int.floor_nonneg.mpr scaledNonneg)
      ((Int.floor_le_ceil scaled).trans ceilDigits) ?_,
    representable_mul_zpow least (Int.ceil_nonneg scaledNonneg) ceilDigits
      (highBound.trans_lt bounded), ?_, lowBound, ?_, highBound⟩
  · exact (lowBound.trans (le_add_of_nonneg_right positive.le)).trans_lt bounded
  · rw [← sub_one_mul]
    have close := (Int.sub_one_lt_floor scaled).le
    exact mul_le_mul_of_nonneg_right close positive.le
  · exact mul_le_mul_of_nonneg_right (Int.le_ceil scaled) positive.le

/-- Below the normal range every multiple of the least unit is a double. -/
theorem representable_of_multiple {exact : ℚ} (positive : 0 < exact)
    (multiple : ∃ n : ℤ, exact = n * 2 ^ (-1074 : ℤ))
    (digits : exact ≤ 2 ^ 53 * 2 ^ (-1074 : ℤ)) (bounded : exact < 2 ^ 1024) :
    Representable exact := by
  obtain ⟨n, rfl⟩ := multiple
  have unitPositive : (0 : ℚ) < 2 ^ (-1074 : ℤ) := zpow_pos two_pos _
  refine representable_mul_zpow le_rfl ?_ ?_ bounded
  · exact_mod_cast (pos_of_mul_pos_left positive unitPositive.le).le
  · exact_mod_cast le_of_mul_le_mul_right digits unitPositive

/-- The numbers that the format has on both sides of an exact value are at most
one part in `2 ^ 52` away from it. -/
theorem exists_neighbours {exact : ℚ} (positive : 0 < exact)
    (multiple : ∃ n : ℤ, exact = n * 2 ^ (-1074 : ℤ))
    (bounded : exact < 2 ^ 1023) :
    ∃ low high, Representable low ∧ Representable high ∧
      exact - exact / 2 ^ 52 ≤ low ∧ low ≤ exact ∧ exact ≤ high ∧
        high ≤ exact + exact / 2 ^ 52 := by
  have wide : exact + exact < 2 ^ 1024 := by
    rw [pow_succ, mul_two]
    exact add_lt_add bounded bounded
  have small : exact / 2 ^ 52 ≤ exact := div_le_self positive.le (by norm_num)
  have below : exact < 2 ^ (Int.log 2 exact + 1) :=
    Int.lt_zpow_succ_log_self one_lt_two exact
  by_cases coarse : -1074 < Int.log 2 exact - 52
  · obtain ⟨unit, isLog⟩ : ∃ unit, Int.log 2 exact = unit + 52 :=
      ⟨Int.log 2 exact - 52, by omega⟩
    have above : (2 : ℚ) ^ Int.log 2 exact ≤ exact := by
      exact_mod_cast Int.zpow_log_le_self one_lt_two positive
    rw [isLog, zpow_add₀ two_ne_zero] at above
    rw [isLog, add_assoc, zpow_add₀ two_ne_zero, mul_comm] at below
    have unitBound : (2 : ℚ) ^ unit ≤ exact / 2 ^ 52 :=
      (le_div_iff₀ (by positivity)).mpr above
    obtain ⟨low, high, hasLow, hasHigh, closeLow, lowBound, highBound,
      closeHigh⟩ := exists_multiples (by omega) positive.le below.le
        ((add_le_add_right (unitBound.trans small) exact).trans_lt wide)
    exact ⟨low, high, hasLow, hasHigh, by linarith, lowBound, highBound,
      by linarith⟩
  · have digits : exact ≤ 2 ^ 53 * 2 ^ (-1074 : ℤ) := by
      refine below.le.trans ?_
      rw [← zpow_natCast, ← zpow_add₀ two_ne_zero]
      exact zpow_le_zpow_right₀ one_le_two (by push_cast; omega)
    have has := representable_of_multiple positive multiple digits
      ((le_add_of_nonneg_right positive.le).trans_lt wide)
    have share : 0 ≤ exact / 2 ^ 52 := by positivity
    exact ⟨exact, exact, has, has, by linarith, le_rfl, le_rfl, by linarith⟩

/-! ### Rounding a significand -/

theorem shiftRight_exact {extended : ExtendedMantissa} {amount : Nat}
    (exact : extended.accuracy = .exact)
    (whole : 2 ^ amount ∣ extended.mantissa) :
    (extended >>> amount).accuracy = .exact := by
  induction amount with
  | zero => exact exact
  | succ amount induction =>
      have shorter := induction ((pow_dvd_pow 2 amount.le_succ).trans whole)
      have even : (extended >>> amount).mantissa % 2 = 0 := by
        rw [shiftRight_mantissa]
        obtain ⟨rest, whole⟩ := whole
        rw [whole, pow_succ, mul_assoc,
          Nat.mul_div_cancel_left _ (by positivity), Nat.mul_mod_right]
      change (extended >>> amount).shiftRightOne.accuracy = .exact
      generalize extended >>> amount = shifted at shorter even
      obtain ⟨mantissa, roundBit, stickyBit⟩ := shifted
      cases roundBit <;> cases stickyBit <;>
        simp_all [ExtendedMantissa.accuracy, ExtendedMantissa.shiftRightOne]

/-- The exponent to which a significand is rounded. -/
def roundedExponent (mantissa : ℕ) (exponent : ℤ) : ℤ :=
  max (mantissa.log2 + exponent - 52) (-1074)

theorem targetExponent_eq (mantissa : ℕ) (exponent : ℤ) :
    Format.binary64.targetExponent (totalExponent mantissa exponent) =
      roundedExponent mantissa exponent := by
  have least : Format.binary64.minExponent = -1074 := by decide
  have bits : (Format.binary64.mantissaBits : ℤ) = 53 := by decide
  rw [Format.targetExponent, totalExponent, least, bits, roundedExponent]
  congr 1
  ring

/-- A significand that is fine enough to be rounded by dropping bits. -/
structure IsFine (mantissa : ℕ) (exponent : ℤ) : Prop where
  fine : exponent ≤ roundedExponent mantissa exponent
  nonzero : mantissa ≠ 0 ∨ roundedExponent mantissa exponent = -1074

/-- The bits of a significand that are kept. -/
def keptBits (mantissa : ℕ) (exponent : ℤ) : ℕ :=
  mantissa / 2 ^ (roundedExponent mantissa exponent - exponent).toNat

/-- At most 53 bits are kept, and fewer only with the least exponent. -/
theorem keptBits_bounds {mantissa : ℕ} {exponent : ℤ}
    (isFine : IsFine mantissa exponent) :
    keptBits mantissa exponent < 2 ^ 53 ∧
      (2 ^ 52 ≤ keptBits mantissa exponent ∨
        roundedExponent mantissa exponent = -1074) := by
  obtain ⟨fine, nonzero⟩ := isFine
  rw [keptBits]
  generalize isUnit : roundedExponent mantissa exponent = unit
    at fine nonzero ⊢
  rw [roundedExponent] at isUnit
  constructor
  · rw [Nat.div_lt_iff_lt_mul (by positivity), ← pow_add]
    exact Nat.lt_log2_self.trans_le (Nat.pow_le_pow_right two_pos (by omega))
  · by_cases least : unit = -1074
    · exact .inr least
    · refine .inl ?_
      rw [Nat.le_div_iff_mul_le (by positivity), ← pow_add]
      exact (Nat.pow_le_pow_right two_pos (by omega)).trans
        (Nat.log2_self_le (nonzero.resolve_right least))

/-- The bits that are kept, and what is known of the others. -/
def kept (mantissa : ℕ) (exponent : ℤ) (accuracy : Accuracy) :
    ExtendedMantissa :=
  ExtendedMantissa.ofMantissaAndAccuracy mantissa accuracy >>>
    (roundedExponent mantissa exponent - exponent).toNat

theorem kept_mantissa (mantissa : ℕ) (exponent : ℤ) (accuracy : Accuracy) :
    (kept mantissa exponent accuracy).mantissa =
      keptBits mantissa exponent := by
  rw [kept, shiftRight_mantissa, keptBits]
  congr 1
  cases accuracy with
  | exact => rfl
  | inexact order => cases order <;> rfl

theorem shiftToTargetExponent_eq_kept (mantissa : ℕ) (exponent : ℤ)
    (accuracy : Accuracy) :
    shiftToTargetExponent .binary64 mantissa exponent accuracy =
      (kept mantissa exponent accuracy,
        exponent + (roundedExponent mantissa exponent - exponent).toNat) := by
  rw [shiftToTargetExponent, targetExponent_eq]
  rfl

/-- Rounding up may make a 54th bit, and nothing is lost by dropping it. -/
theorem shiftToTargetExponent_kept {mantissa : ℕ} {exponent : ℤ}
    (bits : mantissa ≤ 2 ^ 53) (least : -1074 ≤ exponent)
    (leading : 2 ^ 52 ≤ mantissa ∨ exponent = -1074) :
    ∃ last shifted,
      (shiftToTargetExponent .binary64 mantissa exponent .exact).1.mantissa =
        last ∧
      (shiftToTargetExponent .binary64 mantissa exponent .exact).2 = shifted ∧
      last < 2 ^ 53 ∧ -1074 ≤ shifted ∧ (2 ^ 52 ≤ last ∨ shifted = -1074) ∧
      (last : ℚ) * 2 ^ shifted = mantissa * 2 ^ exponent := by
  rw [shiftToTargetExponent_eq_kept, kept_mantissa, keptBits]
  rcases bits.lt_or_eq with short | rfl
  · have small : mantissa.log2 ≤ 52 := by
      rcases Nat.eq_zero_or_pos mantissa with rfl | positive
      · simp
      · have := (Nat.log2_lt positive.ne').mpr short
        omega
    have nothing :
        (roundedExponent mantissa exponent - exponent).toNat = 0 := by
      rw [roundedExponent]
      omega
    refine ⟨mantissa, exponent, ?_, ?_, short, least, leading, rfl⟩ <;>
      simp [nothing]
  · have one : (roundedExponent (2 ^ 53) exponent - exponent).toNat = 1 := by
      rw [roundedExponent, Nat.log2_two_pow]
      omega
    refine ⟨2 ^ 52, exponent + 1, ?_, ?_, by norm_num, by omega,
      .inl le_rfl, ?_⟩
    · rw [one]
      norm_num
    · dsimp only
      rw [one, Nat.cast_one]
    · rw [zpow_add_one₀ two_ne_zero]
      push_cast
      ring

/-- A rounded number as a significand of at most 53 bits. -/
theorem roundWithAccuracy_eq (sign : Sign) {mantissa : ℕ} {exponent : ℤ}
    (isFine : IsFine mantissa exponent) (accuracy : Accuracy) :
    ∃ last shifted,
      (roundWithAccuracy .binary64 sign mantissa exponent accuracy =
        if positive : last = 0 then
          .zero sign
        else
          .finite sign last shifted (Nat.pos_of_ne_zero positive)) ∧
      last < 2 ^ 53 ∧ -1074 ≤ shifted ∧ (2 ^ 52 ≤ last ∨ shifted = -1074) ∧
      (last : ℚ) * 2 ^ shifted =
        (kept mantissa exponent accuracy).roundedMantissa *
          2 ^ roundedExponent mantissa exponent := by
  obtain ⟨short, leading⟩ := keptBits_bounds isFine
  obtain ⟨low, high⟩ :=
    roundedMantissa_bounds (kept mantissa exponent accuracy)
  rw [kept_mantissa] at low high
  have least : -1074 ≤ roundedExponent mantissa exponent := le_max_right _ _
  obtain ⟨last, shifted, isLast, isShifted, rest⟩ :=
    @shiftToTargetExponent_kept
      (kept mantissa exponent accuracy).roundedMantissa _ (by omega) least
      (by omega)
  refine ⟨last, shifted, ?_, rest⟩
  have shift : exponent +
      (roundedExponent mantissa exponent - exponent).toNat =
        roundedExponent mantissa exponent := by
    have := isFine.fine
    omega
  rw [roundWithAccuracy, shiftToTargetExponent_eq_kept, shift]
  subst isLast isShifted
  rfl

/-! ### Rounding an exact value -/

/-- A significand with what is known of the bits below it stands for an exact
value. -/
structure Approximates (exact : ℚ) (mantissa : ℕ) (exponent : ℤ)
    (accuracy : Accuracy) : Prop where
  low : mantissa * 2 ^ exponent ≤ exact
  high : exact < (mantissa + 1) * 2 ^ exponent
  accurate : exact = mantissa * 2 ^ exponent → accuracy = .exact

section Approximates

variable {exact : ℚ} {mantissa : ℕ} {exponent : ℤ} {accuracy : Accuracy}

theorem two_zpow_pos (exponent : ℤ) : (0 : ℚ) < 2 ^ exponent :=
  zpow_pos two_pos exponent

theorem IsFine.zpow_eq (isFine : IsFine mantissa exponent) :
    (2 : ℚ) ^ roundedExponent mantissa exponent =
      2 ^ (roundedExponent mantissa exponent - exponent).toNat *
        2 ^ exponent := by
  rw [← zpow_natCast, ← zpow_add₀ two_ne_zero,
    Int.toNat_sub_of_le isFine.fine, sub_add_cancel]

theorem keptBits_le
    (approximates : Approximates exact mantissa exponent accuracy)
    (isFine : IsFine mantissa exponent) :
    keptBits mantissa exponent * 2 ^ roundedExponent mantissa exponent ≤
      exact := by
  refine le_trans ?_ approximates.low
  rw [isFine.zpow_eq, ← mul_assoc]
  refine mul_le_mul_of_nonneg_right ?_ (two_zpow_pos exponent).le
  exact_mod_cast Nat.div_mul_le_self _ _

theorem lt_keptBits_succ
    (approximates : Approximates exact mantissa exponent accuracy)
    (isFine : IsFine mantissa exponent) :
    exact < (keptBits mantissa exponent + 1) *
      2 ^ roundedExponent mantissa exponent := by
  refine approximates.high.trans_le ?_
  rw [isFine.zpow_eq, ← mul_assoc]
  refine mul_le_mul_of_nonneg_right ?_ (two_zpow_pos exponent).le
  have next : mantissa + 1 ≤ (keptBits mantissa exponent + 1) *
      2 ^ (roundedExponent mantissa exponent - exponent).toNat := by
    rw [keptBits, add_mul, one_mul]
    exact Nat.lt_div_mul_add (by positivity)
  exact_mod_cast next

/-- If the bits that are kept are the whole value, then they are not changed. -/
theorem roundedMantissa_of_eq
    (approximates : Approximates exact mantissa exponent accuracy)
    (isFine : IsFine mantissa exponent)
    (whole : exact = keptBits mantissa exponent *
      2 ^ roundedExponent mantissa exponent) :
    (kept mantissa exponent accuracy).roundedMantissa =
      keptBits mantissa exponent := by
  have divides : keptBits mantissa exponent *
      2 ^ (roundedExponent mantissa exponent - exponent).toNat = mantissa := by
    refine le_antisymm (Nat.div_mul_le_self _ _) ?_
    have low := approximates.low
    rw [whole, isFine.zpow_eq, ← mul_assoc,
      mul_le_mul_iff_left₀ (two_zpow_pos exponent)] at low
    exact_mod_cast low
  have isExact : accuracy = .exact := by
    refine approximates.accurate ?_
    rw [whole, isFine.zpow_eq, ← mul_assoc]
    congr 1
    exact_mod_cast divides
  have keptExact : (kept mantissa exponent accuracy).accuracy = .exact := by
    subst isExact
    exact shiftRight_exact rfl ⟨_, (mul_comm _ _).trans divides |>.symm⟩
  rw [ExtendedMantissa.roundedMantissa, keptExact, ← kept_mantissa _ _ accuracy]
  rfl

theorem le_rounded {r : ℚ} (has : Representable r)
    (approximates : Approximates exact mantissa exponent accuracy)
    (isFine : IsFine mantissa exponent) (below : r ≤ exact) :
    r ≤ (kept mantissa exponent accuracy).roundedMantissa *
      2 ^ roundedExponent mantissa exponent := by
  have positive := two_zpow_pos (roundedExponent mantissa exponent)
  have keptLow : (keptBits mantissa exponent : ℚ) ≤
      (kept mantissa exponent accuracy).roundedMantissa := by
    exact_mod_cast (kept_mantissa mantissa exponent accuracy).symm.le.trans
      (roundedMantissa_bounds _).1
  refine le_trans ?_ (mul_le_mul_of_nonneg_right keptLow positive.le)
  rcases has.multiple_or_le (roundedExponent mantissa exponent) with
    ⟨n, rfl⟩ | ⟨coarse, small⟩
  · have high := below.trans_lt (lt_keptBits_succ approximates isFine)
    rw [mul_lt_mul_iff_left₀ positive] at high
    have atMost : n ≤ keptBits mantissa exponent :=
      Int.lt_add_one_iff.mp (by exact_mod_cast high)
    exact mul_le_mul_of_nonneg_right (by exact_mod_cast atMost) positive.le
  · have leading := (keptBits_bounds isFine).2.resolve_right coarse.ne'
    refine (le_abs_self r).trans (small.trans ?_)
    exact mul_le_mul_of_nonneg_right (by exact_mod_cast leading) positive.le

theorem rounded_le {r : ℚ} (has : Representable r)
    (approximates : Approximates exact mantissa exponent accuracy)
    (isFine : IsFine mantissa exponent) (above : exact ≤ r) :
    (kept mantissa exponent accuracy).roundedMantissa *
      2 ^ roundedExponent mantissa exponent ≤ r := by
  have positive := two_zpow_pos (roundedExponent mantissa exponent)
  have low := keptBits_le approximates isFine
  have multiple : ∃ n : ℤ, r = n * 2 ^ roundedExponent mantissa exponent := by
    rcases has.multiple_or_le (roundedExponent mantissa exponent) with
      multiple | ⟨coarse, small⟩
    · exact multiple
    · -- The value has 53 bits, so that only the least such value is as small.
      have leading := (keptBits_bounds isFine).2.resolve_right coarse.ne'
      refine ⟨keptBits mantissa exponent, le_antisymm ?_ ?_⟩
      · refine (le_abs_self r).trans (small.trans ?_)
        exact mul_le_mul_of_nonneg_right (by exact_mod_cast leading) positive.le
      · exact_mod_cast low.trans above
  obtain ⟨n, rfl⟩ := multiple
  refine mul_le_mul_of_nonneg_right ?_ positive.le
  have atLeast : (keptBits mantissa exponent : ℤ) ≤ n := by
    have := low.trans above
    rw [mul_le_mul_iff_left₀ positive] at this
    exact_mod_cast this
  rcases atLeast.eq_or_lt with same | more
  · have whole := le_antisymm above (by rw [← same]; exact_mod_cast low)
    rw [← same] at whole ⊢
    rw [roundedMantissa_of_eq approximates isFine (by exact_mod_cast whole)]
    exact_mod_cast le_rfl
  · have keptHigh := (roundedMantissa_bounds
      (kept mantissa exponent accuracy)).2
    rw [kept_mantissa] at keptHigh
    have bound :
        ((kept mantissa exponent accuracy).roundedMantissa : ℤ) ≤ n := by
      omega
    exact_mod_cast bound

/-- A magnitude with a sign. -/
def signed : Sign → ℚ → ℚ
  | .positive, magnitude => magnitude
  | .negative, magnitude => -magnitude

/-- A double made of a sign and a magnitude, which is infinite if the magnitude
is beyond the range. -/
inductive Packs (sign : Sign) (magnitude : ℚ) (x : Float) : Prop where
  | value : value? x = some (signed sign magnitude) → Packs sign magnitude x
  | infinite : x.toModel.unpack = .infinity sign → 2 ^ 1024 ≤ magnitude →
      Packs sign magnitude x

theorem signed_mul_zpow (sign : Sign) (mantissa : ℕ) (exponent : ℤ) :
    (sign.apply mantissa : ℚ) * 2 ^ exponent =
      signed sign (mantissa * 2 ^ exponent) := by
  cases sign <;> simp [Sign.apply, signed]

theorem packs_roundWithAccuracy (sign : Sign)
    (isFine : IsFine mantissa exponent) (accuracy : Accuracy) :
    Packs sign ((kept mantissa exponent accuracy).roundedMantissa *
        2 ^ roundedExponent mantissa exponent)
      (.ofModel (pack (roundWithAccuracy .binary64 sign mantissa exponent
        accuracy))) := by
  obtain ⟨last, shifted, same, bits, least, leading, isValue⟩ :=
    roundWithAccuracy_eq sign isFine accuracy
  rw [same, ← isValue]
  have unpacked : ∀ x, (Float.ofModel (pack x)).toModel.unpack =
      (pack x).unpack := fun _ => rfl
  by_cases zero : last = 0
  · rw [dif_pos zero]
    refine .value ?_
    rw [value?, unpacked, zero]
    cases sign <;> simp [signed] <;> rfl
  · rw [dif_neg zero]
    by_cases wide : 2 ^ 52 ≤ last
    · have log2 : last.log2 = 52 := (Nat.log2_eq_iff zero).mpr ⟨wide, bits⟩
      have packed := unpack_pack_of_log2 sign (Nat.pos_of_ne_zero zero) log2
        least
      by_cases overflows : 972 ≤ shifted
      · rw [if_pos overflows] at packed
        refine .infinite packed ?_
        have power : (2 : ℚ) ^ (1024 : ℕ) = 2 ^ (52 : ℕ) * 2 ^ (972 : ℤ) := by
          rw [show (972 : ℤ) = ((972 : ℕ) : ℤ) from rfl, zpow_natCast,
            ← pow_add]
        rw [power]
        exact mul_le_mul (by exact_mod_cast wide)
          (zpow_le_zpow_right₀ one_le_two overflows) (by positivity)
          (by positivity)
      · rw [if_neg overflows] at packed
        refine .value ?_
        rw [value?, unpacked, packed, exactValue?, signed_mul_zpow]
    · obtain rfl := leading.resolve_left wide
      have packed := unpack_pack_of_subnormal sign (Nat.pos_of_ne_zero zero)
        (Nat.lt_of_not_le wide)
      refine .value ?_
      rw [value?, unpacked, packed, exactValue?, signed_mul_zpow]

/-- Rounding a significand yields the exact value up to what the format cannot
tell apart. -/
theorem rounds_roundWithAccuracy (sign : Sign)
    (approximates : Approximates exact mantissa exponent accuracy)
    (isFine : IsFine mantissa exponent) :
    Rounds (signed sign exact) (.ofModel (pack
      (roundWithAccuracy .binary64 sign mantissa exponent accuracy))) := by
  have packs := packs_roundWithAccuracy sign isFine accuracy
  have low := fun r has => le_rounded (r := r) has approximates isFine
  have high := fun r has => rounded_le (r := r) has approximates isFine
  generalize ((kept mantissa exponent accuracy).roundedMantissa : ℚ) *
    2 ^ roundedExponent mantissa exponent = rounded at packs low high
  generalize (Float.ofModel _ : Float) = x at packs
  cases sign with
  | positive =>
      constructor
      · intro r has below
        cases packs with
        | value isValue => exact .inr ⟨_, isValue, low r has below⟩
        | infinite isInfinite _ => exact .inl isInfinite
      · intro r has above
        cases packs with
        | value isValue => exact .inr ⟨_, isValue, high r has above⟩
        | infinite _ overflows =>
            have bounded := (le_abs_self r).trans_lt has.bounded
            exact absurd (overflows.trans (high r has above)) bounded.not_ge
  | negative =>
      constructor
      · intro r has below
        have above := high (-r) has.neg (le_neg_of_le_neg below)
        cases packs with
        | value isValue => exact .inr ⟨_, isValue, le_neg_of_le_neg above⟩
        | infinite _ overflows =>
            have bounded := (neg_le_abs r).trans_lt has.bounded
            exact absurd (overflows.trans above) bounded.not_ge
      · intro r has above
        have below := low (-r) has.neg (neg_le_of_neg_le above)
        cases packs with
        | value isValue => exact .inr ⟨_, isValue, neg_le_of_neg_le below⟩
        | infinite isInfinite _ => exact .inl isInfinite

end Approximates

end PaneLayout.Binary64
