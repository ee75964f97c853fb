import PaneLayout.Proofs.Number.Arithmetic

/-!
# Sums that are rounded down

A sum that is less than half a unit above a double of 53 bits is rounded to that
double.  Hence sums of small numbers do not grow without bound: a sum that is
large enough absorbs every further one.
-/

namespace PaneLayout.Binary64

open Float.Model Float.Model.UnpackedFloat

section Half

variable {mantissa : ℕ} {exponent : ℤ}

/-- The exponent of leading bits whose value is known up to half a unit. -/
theorem exponent_le_of_lt_half (isFine : IsFine mantissa exponent) {n : ℕ}
    {unit : ℤ} (bits : n < 2 ^ 53) (least : -1074 ≤ unit)
    (high : (mantissa : ℚ) * 2 ^ exponent < (n + 1 / 2) * 2 ^ unit) :
    exponent ≤ unit := by
  by_contra coarse
  have fine := isFine.fine
  rw [roundedExponent] at fine
  have nonzero : mantissa ≠ 0 := by
    rintro rfl
    simp at fine
    omega
  have wide : 2 ^ 52 ≤ mantissa := (Nat.le_log2 nonzero).mp (by omega)
  have power : (2 : ℚ) * 2 ^ unit ≤ 2 ^ exponent := by
    rw [mul_comm, ← zpow_add_one₀ two_ne_zero]
    exact zpow_le_zpow_right₀ one_le_two (by omega)
  have leading : (2 : ℚ) ^ 52 * (2 * 2 ^ unit) ≤ mantissa * 2 ^ exponent :=
    mul_le_mul (by exact_mod_cast wide) power (by positivity) (by positivity)
  have few : (n : ℚ) + 1 ≤ 2 ^ 53 := by exact_mod_cast bits
  have positive := two_zpow_pos unit
  nlinarith

/-- The leading bits of a significand that is less than half a unit above
them. -/
theorem kept_of_lt_half {n amount : ℕ} (low : n * 2 ^ amount ≤ mantissa)
    (high : 2 * mantissa < (2 * n + 1) * 2 ^ amount) :
    (ExtendedMantissa.ofMantissaAndAccuracy mantissa .exact >>>
      amount).roundedMantissa = n := by
  cases amount with
  | zero =>
      have same : mantissa = n := by omega
      rw [same]
      rfl
  | succ amount =>
      have even : mantissa / 2 ^ amount = 2 * n := by
        refine Nat.div_eq_of_lt_le ?_ ?_ <;> rw [pow_succ] at * <;> linarith
      have last := shiftRight_mantissa
        (.ofMantissaAndAccuracy mantissa .exact) amount
      change (ExtendedMantissa.ofMantissaAndAccuracy mantissa .exact >>>
        amount).shiftRightOne.roundedMantissa = n
      generalize ExtendedMantissa.ofMantissaAndAccuracy mantissa .exact >>>
        amount = shifted at last
      obtain ⟨kept, roundBit, stickyBit⟩ := shifted
      have isEven : kept = 2 * n := last.trans even
      cases roundBit <;> cases stickyBit <;>
        simp [isEven, ExtendedMantissa.shiftRightOne,
          ExtendedMantissa.roundedMantissa, ExtendedMantissa.accuracy,
          Accuracy.roundToNearestEven]

theorem rounded_of_lt_half (isFine : IsFine mantissa exponent) {n : ℕ}
    {unit : ℤ} (wide : 2 ^ 52 ≤ n) (bits : n < 2 ^ 53) (least : -1074 ≤ unit)
    (low : (n : ℚ) * 2 ^ unit ≤ mantissa * 2 ^ exponent)
    (high : (mantissa : ℚ) * 2 ^ exponent < (n + 1 / 2) * 2 ^ unit) :
    ((kept mantissa exponent .exact).roundedMantissa : ℚ) *
      2 ^ roundedExponent mantissa exponent = n * 2 ^ unit := by
  obtain ⟨amount, rfl⟩ := Int.le.dest
    (exponent_le_of_lt_half isFine bits least high)
  have positive := two_zpow_pos exponent
  rw [zpow_add₀ two_ne_zero, zpow_natCast, mul_comm ((2 : ℚ) ^ exponent),
    ← mul_assoc] at low high
  rw [mul_le_mul_iff_left₀ positive] at low
  rw [mul_lt_mul_iff_left₀ positive] at high
  have lowBits : n * 2 ^ amount ≤ mantissa := by exact_mod_cast low
  have highBits : 2 * mantissa < (2 * n + 1) * 2 ^ amount := by
    have double : (2 : ℚ) * mantissa < (2 * n + 1) * 2 ^ amount := by linarith
    exact_mod_cast double
  have log2 : mantissa.log2 = 52 + amount := by
    have unit : 0 < 2 ^ amount := Nat.two_pow_pos amount
    refine (Nat.log2_eq_iff (by nlinarith)).mpr ⟨?_, ?_⟩
    · rw [pow_add]
      nlinarith
    · rw [add_right_comm, pow_add]
      have few := Nat.mul_le_mul_right (2 ^ amount)
        (show 2 * n + 1 ≤ 2 * 2 ^ 53 by omega)
      omega
  have isUnit : roundedExponent mantissa exponent = exponent + amount := by
    rw [roundedExponent, log2]
    push_cast
    omega
  have isAmount : (exponent + amount - exponent).toNat = amount := by omega
  rw [kept, isUnit, isAmount, kept_of_lt_half lowBits highBits]

end Half

/-- What lies less than half a unit above a double of 53 bits is rounded to that
double. -/
theorem IsRounded.of_lt_half {exact : ℚ} {x : Float}
    (isRounded : IsRounded exact x) {n : ℕ} {unit : ℤ} (wide : 2 ^ 52 ≤ n)
    (bits : n < 2 ^ 53) (least : -1074 ≤ unit)
    (bounded : (n : ℚ) * 2 ^ unit < 2 ^ 1024)
    (low : (n : ℚ) * 2 ^ unit ≤ exact)
    (high : exact < (n + 1 / 2) * 2 ^ unit) :
    value? x = some ((n : ℚ) * 2 ^ unit) := by
  have positive := two_zpow_pos unit
  have atLeast : (2 : ℚ) ^ 52 ≤ n := by exact_mod_cast wide
  cases isRounded with
  | value isValue =>
      rw [isValue]
      congr 1
      rcases (representable_of_value isValue).multiple_or_le unit with
        ⟨m, rfl⟩ | ⟨_, small⟩
      · rw [mul_le_mul_iff_left₀ positive] at low
        rw [mul_lt_mul_iff_left₀ positive] at high
        have lowBits : (n : ℤ) ≤ m := by exact_mod_cast low
        have highBits : m < (n : ℤ) + 1 := by
          have below : (m : ℚ) < n + 1 := by linarith
          exact_mod_cast below
        obtain rfl : m = n := by omega
        norm_cast
      · have above := (le_abs_self exact).trans small
        exact le_antisymm (above.trans
          (mul_le_mul_of_nonneg_right atLeast positive.le)) low
  | @leading sign mantissa exponent isFine =>
      have magnitude : (0 : ℚ) ≤ mantissa * 2 ^ exponent :=
        mul_nonneg (Nat.cast_nonneg _) (two_zpow_pos exponent).le
      have lowest : (0 : ℚ) < n * 2 ^ unit := by positivity
      cases sign with
      | negative =>
          exact absurd (low.trans (neg_nonpos.mpr magnitude)) lowest.not_ge
      | positive =>
          have same := rounded_of_lt_half isFine wide bits least low high
          have packs := packs_roundWithAccuracy .positive isFine .exact
          rw [same] at packs
          cases packs with
          | value isValue => exact isValue
          | infinite _ overflows => exact absurd overflows bounded.not_ge

/-- The greatest double below `2 ^ 54` units is two units below.  So a sum with
at most one unit that exceeds the bound begins at the bound. -/
theorem eq_bound_of_lt_add {value other : ℚ} (has : Representable value)
    {unit : ℤ} (atMost : value ≤ 2 ^ 54 * 2 ^ unit)
    (otherSmall : other ≤ 2 ^ unit)
    (above : 2 ^ 54 * 2 ^ unit < value + other) :
    value = 2 ^ 54 * 2 ^ unit := by
  have positive := two_zpow_pos unit
  have double : (2 : ℚ) ^ (unit + 1) = 2 * 2 ^ unit := by
    rw [zpow_add_one₀ two_ne_zero, mul_comm]
  rcases has.multiple_or_le (unit + 1) with ⟨m, rfl⟩ | ⟨_, less⟩
  · rw [double] at atMost above ⊢
    have highBits : m ≤ 2 ^ 53 := by
      have few : (m : ℚ) ≤ 2 ^ 53 := by nlinarith
      exact_mod_cast few
    have lowBits : 2 ^ 53 - 1 < m := by
      have many : (2 : ℚ) ^ 53 - 1 < m := by nlinarith
      exact_mod_cast many
    obtain rfl : m = 2 ^ 53 := by omega
    push_cast
    ring
  · rw [double] at less
    have atLeast := le_abs_self value
    nlinarith

/-- A sum does not grow beyond `2 ^ 54` units by numbers of at most one unit. -/
theorem value_add_small {x y : Float} {value other : ℚ}
    (isValue : value? x = some value) (isOther : value? y = some other)
    {unit : ℤ} (least : -1074 ≤ unit) (small : unit ≤ 0) (nonneg : 0 ≤ value)
    (atMost : value ≤ 2 ^ 54 * 2 ^ unit) (otherNonneg : 0 ≤ other)
    (otherSmall : other ≤ 2 ^ unit) :
    ∃ sum, value? (x + y) = some sum ∧ 0 ≤ sum ∧ sum ≤ 2 ^ 54 * 2 ^ unit := by
  have positive := two_zpow_pos unit
  have isUnit : (2 : ℚ) ^ unit ≤ 1 := zpow_le_one_of_nonpos₀ one_le_two small
  have coarse : (2 : ℚ) ^ (unit + 2) = 4 * 2 ^ unit := by
    rw [zpow_add₀ two_ne_zero]
    norm_num
    ring
  have same : ((2 ^ 52 : ℕ) : ℚ) * 2 ^ (unit + 2) = 2 ^ 54 * 2 ^ unit := by
    rw [coarse]
    push_cast
    ring
  have bounded : (2 : ℚ) ^ 54 * 2 ^ unit < 2 ^ 1024 :=
    (mul_le_of_le_one_right (by positivity) isUnit).trans_lt
      (pow_lt_pow_right₀ one_lt_two (by norm_num))
  have has : Representable (2 ^ 54 * 2 ^ unit) := by
    rw [← same] at bounded ⊢
    exact_mod_cast representable_mul_zpow (n := (2 ^ 52 : ℕ)) (by omega)
      (by positivity) (by norm_num) (by exact_mod_cast bounded)
  by_cases below : value + other ≤ 2 ^ 54 * 2 ^ unit
  · exact (rounds_add isValue isOther).between representable_zero has
      (add_nonneg nonneg otherNonneg) below
  · have isMost := eq_bound_of_lt_add (representable_of_value isValue) atMost
      otherSmall (lt_of_not_ge below)
    have rounded := (isRounded_add isValue isOther).of_lt_half
      (n := 2 ^ 52) le_rfl (by norm_num) (show -1074 ≤ unit + 2 by omega)
      (by rwa [same]) (by rw [same]; linarith)
      (by rw [add_mul, same, coarse]; linarith)
    exact ⟨_, rounded, by positivity, same.le⟩

end PaneLayout.Binary64
