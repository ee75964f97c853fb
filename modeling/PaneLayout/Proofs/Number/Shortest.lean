import PaneLayout.Number.Shortest
import PaneLayout.Proofs.Number.Arithmetic

/-!
# Shortest decimals tell doubles apart

The decimal that is chosen for a double rounds to it: a point of a grid is only
taken if it lies in the interval of the double, and the last of the grids that
are tried is finer than the interval is wide.  Two doubles have no number in
common that rounds to both, so their decimals differ.
-/

namespace PaneLayout.Shortest

open Binary64

/-- The number that a decimal stands for. -/
def Decimal.value (decimal : Decimal) : ℚ :=
  decimal.digits * 10 ^ decimal.power

theorem zpow_mul_pow_toNat {base : ℚ} (nonzero : base ≠ 0) (power : ℤ) :
    base ^ power * base ^ (-power).toNat = base ^ power.toNat := by
  rw [← zpow_natCast, ← zpow_natCast, ← zpow_add₀ nonzero]
  congr 1
  omega

theorem ten_ne_zero : (10 : ℚ) ≠ 0 := by
  norm_num

theorem ten_zpow_pos (power : ℤ) : (0 : ℚ) < 10 ^ power :=
  zpow_pos (by norm_num) power

/-- Trailing zeros of the digits do not change the number. -/
theorem Decimal.value_trim (decimal : Decimal) (attempts : ℕ) :
    (decimal.trim attempts).value = decimal.value := by
  induction attempts generalizing decimal with
  | zero => rfl
  | succ attempts induction =>
      unfold Decimal.trim
      split
      · next zeros =>
        rw [induction, Decimal.value, Decimal.value]
        have whole : decimal.digits = 10 * (decimal.digits / 10) := by omega
        have cast : (decimal.digits : ℚ) = 10 * (decimal.digits / 10 : ℕ) := by
          exact_mod_cast whole
        rw [cast, zpow_add_one₀ ten_ne_zero]
        ring
      · rfl

namespace Interval

/-! ### Points of a grid -/

def low (interval : Interval) : ℚ :=
  interval.lower / interval.denominator

def middle (interval : Interval) : ℚ :=
  interval.center / interval.denominator

def high (interval : Interval) : ℚ :=
  interval.upper / interval.denominator

/-- A number lies in the interval, whose ends may belong to it. -/
structure Holds (interval : Interval) (number : ℚ) : Prop where
  low : interval.low ≤ number
  high : number ≤ interval.high
  inner : interval.closed = false →
    interval.low < number ∧ number < interval.high

section Grid

variable {interval : Interval} (positive : 0 < interval.denominator)
include positive

omit positive in
theorem cast_point (candidate : Decimal) :
    ((candidate.digits * interval.denominator *
        Nat.pow 10 candidate.power.toNat : ℕ) : ℚ) =
      candidate.value * interval.denominator *
        10 ^ (-candidate.power).toNat := by
  have power := zpow_mul_pow_toNat ten_ne_zero candidate.power
  rw [Decimal.value, Nat.pow_eq, Nat.cast_mul, Nat.cast_mul, Nat.cast_pow,
    Nat.cast_ofNat, ← power]
  ring

/-- The comparison of an end with a grid point, in whole numbers. -/
theorem le_point_iff (bound : ℕ) (candidate : Decimal) :
    bound * Nat.pow 10 (-candidate.power).toNat ≤
        candidate.digits * interval.denominator *
          Nat.pow 10 candidate.power.toNat ↔
      (bound : ℚ) / interval.denominator ≤ candidate.value := by
  have divisor : (0 : ℚ) < interval.denominator := by exact_mod_cast positive
  have stretch : (0 : ℚ) < 10 ^ (-candidate.power).toNat := by positivity
  rw [← Nat.cast_le (α := ℚ), cast_point, div_le_iff₀ divisor, Nat.pow_eq,
    Nat.cast_mul, Nat.cast_pow, Nat.cast_ofNat,
    mul_le_mul_iff_of_pos_right stretch]

theorem point_le_iff (bound : ℕ) (candidate : Decimal) :
    candidate.digits * interval.denominator *
          Nat.pow 10 candidate.power.toNat ≤
        bound * Nat.pow 10 (-candidate.power).toNat ↔
      candidate.value ≤ (bound : ℚ) / interval.denominator := by
  have divisor : (0 : ℚ) < interval.denominator := by exact_mod_cast positive
  have stretch : (0 : ℚ) < 10 ^ (-candidate.power).toNat := by positivity
  rw [← Nat.cast_le (α := ℚ), cast_point, le_div_iff₀ divisor, Nat.pow_eq,
    Nat.cast_mul, Nat.cast_pow, Nat.cast_ofNat,
    mul_le_mul_iff_of_pos_right stretch]

theorem contains_iff (candidate : Decimal) :
    interval.contains candidate = true ↔ interval.Holds candidate.value := by
  have fromLow := le_point_iff positive interval.lower candidate
  have toHigh := point_le_iff positive interval.upper candidate
  have aboveLow := (point_le_iff positive interval.lower candidate).not
  have belowHigh := (le_point_iff positive interval.upper candidate).not
  rw [not_le, not_le] at aboveLow belowHigh
  unfold Interval.contains
  cases closed : interval.closed with
  | true =>
      simp only [if_true, Bool.and_eq_true, decide_eq_true_eq]
      rw [fromLow, toHigh]
      constructor
      · intro ⟨low, high⟩
        exact ⟨low, high, by simp [closed]⟩
      · intro holds
        exact ⟨holds.low, holds.high⟩
  | false =>
      simp only [Bool.false_eq_true, if_false, Bool.and_eq_true,
        decide_eq_true_eq]
      rw [aboveLow, belowHigh]
      constructor
      · intro ⟨low, high⟩
        exact ⟨low.le, high.le, fun _ => ⟨low, high⟩⟩
      · intro holds
        exact holds.inner closed

theorem neighbors_below (power : ℤ) :
    (interval.neighbors power).1.value ≤ interval.middle := by
  refine (point_le_iff positive interval.center _).mp ?_
  rw [mul_assoc]
  exact Nat.div_mul_le_self _ _

theorem neighbors_above (power : ℤ) :
    interval.middle < (interval.neighbors power).2.value := by
  have reached := (point_le_iff positive interval.center
    (interval.neighbors power).2).not
  rw [not_le, not_le] at reached
  refine reached.mp ?_
  rw [mul_assoc]
  refine Nat.lt_mul_of_div_lt (Nat.lt_succ_self _) ?_
  exact Nat.mul_pos positive (Nat.pow_pos (by decide))

omit positive in
theorem neighbors_apart (interval : Interval) (power : ℤ) :
    (interval.neighbors power).2.value =
      (interval.neighbors power).1.value + 10 ^ power := by
  simp only [Interval.neighbors, Decimal.value, Nat.cast_add, Nat.cast_one]
  ring

theorem holds_of_onGrid {power : ℤ} {decimal : Decimal}
    (found : interval.onGrid? power = some decimal) :
    interval.Holds decimal.value := by
  rw [← contains_iff positive]
  unfold Interval.onGrid? at found
  dsimp only at found
  split at found
  · next below above =>
    split at found
    · cases found
      exact below
    · cases found
      exact above
  · next below _ =>
    cases found
    exact below
  · next _ above =>
    cases found
    exact above
  · cases found

/-- A grid that is finer than the interval is wide has a point in it next to the
center. -/
theorem exists_onGrid (low : interval.low < interval.middle)
    (high : interval.middle < interval.high) {power : ℤ}
    (fine : (10 : ℚ) ^ power < interval.high - interval.low) :
    ∃ decimal, interval.onGrid? power = some decimal := by
  have below := neighbors_below positive power
  have above := neighbors_above positive power
  have apart := interval.neighbors_apart power
  by_cases inside : interval.low < (interval.neighbors power).1.value
  · have contained : interval.contains (interval.neighbors power).1 = true := by
      rw [contains_iff positive]
      exact ⟨inside.le, (below.trans_lt high).le,
        fun _ => ⟨inside, below.trans_lt high⟩⟩
    unfold Interval.onGrid?
    dsimp only
    rw [contained]
    cases interval.contains (interval.neighbors power).2 with
    | false => exact ⟨_, rfl⟩
    | true =>
        dsimp only
        split <;> exact ⟨_, rfl⟩
  · have contained : interval.contains (interval.neighbors power).2 = true := by
      have inner : (interval.neighbors power).2.value < interval.high := by
        linarith
      rw [contains_iff positive]
      exact ⟨(low.trans above).le, inner.le, fun _ => ⟨low.trans above, inner⟩⟩
    unfold Interval.onGrid?
    dsimp only
    rw [contained]
    cases interval.contains (interval.neighbors power).1 with
    | false => exact ⟨_, rfl⟩
    | true =>
        dsimp only
        split <;> exact ⟨_, rfl⟩

/-- The search ends inside the interval if one of its grids is fine enough. -/
theorem holds_search (low : interval.low < interval.middle)
    (high : interval.middle < interval.high) {power : ℤ} {attempts : ℕ}
    (fine : (10 : ℚ) ^ (power - attempts) < interval.high - interval.low) :
    interval.Holds (interval.search power (attempts + 1)).value := by
  induction attempts generalizing power with
  | zero =>
      rw [Nat.cast_zero, sub_zero] at fine
      obtain ⟨decimal, found⟩ := exists_onGrid positive low high fine
      unfold Interval.search
      rw [found]
      exact holds_of_onGrid positive found
  | succ attempts induction =>
      unfold Interval.search
      cases found : interval.onGrid? power with
      | some decimal => exact holds_of_onGrid positive found
      | none =>
          refine induction ?_
          have same : power - 1 - attempts = power - (attempts + 1 : ℕ) := by
            push_cast
            ring
          rwa [same]

/-! ### The leading place -/

theorem le_middle_of_reaches {power : ℤ}
    (reached : interval.reaches power = true) :
    (10 : ℚ) ^ power ≤ interval.middle := by
  have below := of_decide_eq_true reached
  have point := (point_le_iff positive interval.center ⟨1, power⟩).mp
    (by rwa [one_mul])
  rwa [Decimal.value, Nat.cast_one, one_mul] at point

end Grid

/-- The least decimal place that is estimated from a binary one. -/
def leastPlace (binary : ℤ) : ℤ :=
  (binary * 30103).fdiv 100000 - 1

/-- Places are compared by a fraction that is near the logarithm of two. -/
theorem ten_zpow_le {place binary : ℤ} {tens twos : ℕ} (nonzero : twos ≠ 0)
    (atMost : place * twos ≤ tens * binary)
    (powers : ((10 : ℚ) ^ tens) ^ binary ≤ (2 ^ twos) ^ binary) :
    (10 : ℚ) ^ place ≤ 2 ^ binary := by
  rw [← pow_le_pow_iff_left₀ (ten_zpow_pos place).le (two_zpow_pos binary).le
    nonzero]
  calc ((10 : ℚ) ^ place) ^ twos
    _ = 10 ^ (place * twos) := by rw [zpow_mul, zpow_natCast]
    _ ≤ 10 ^ (tens * binary) := zpow_le_zpow_right₀ (by norm_num) atMost
    _ = (10 ^ tens) ^ binary := by rw [zpow_mul, zpow_natCast]
    _ ≤ (2 ^ twos) ^ binary := powers
    _ = (2 ^ binary) ^ twos := by
        rw [← zpow_natCast, ← zpow_natCast, zpow_comm]

/-- The least place is not too great at any place that a double has. -/
theorem zpow_leastPlace_le {binary : ℤ} (least : -1074 ≤ binary)
    (greatest : binary < 1024) :
    (10 : ℚ) ^ leastPlace binary ≤ 2 ^ binary := by
  have estimate : leastPlace binary = binary * 30103 / 100000 - 1 := by
    rw [leastPlace, Int.fdiv_eq_ediv_of_nonneg _ (by decide)]
  -- The fraction errs on the side of the sign: 59/196 is below the logarithm,
  -- 28/93 above it.
  rcases Int.eq_nat_or_neg binary with ⟨places, rfl | rfl⟩
  · refine ten_zpow_le (by decide : 196 ≠ 0) (by omega :
      leastPlace places * (196 : ℕ) ≤ (59 : ℕ) * places) ?_
    rw [zpow_natCast, zpow_natCast]
    exact pow_le_pow_left₀ (by positivity) (by norm_num) places
  · refine ten_zpow_le (by decide : 93 ≠ 0) (by omega :
      leastPlace (-places) * (93 : ℕ) ≤ (28 : ℕ) * (-places)) ?_
    rw [zpow_neg, zpow_neg, zpow_natCast, zpow_natCast]
    refine inv_anti₀ (by positivity) ?_
    exact pow_le_pow_left₀ (by positivity) (by norm_num) places

end Interval

/-! ### The interval around a double -/

namespace Interval

variable {mantissa : ℕ} {exponent : ℤ}

/-- A quarter of the distance between the double and the next one. -/
def quarter (exponent : ℤ) : ℚ :=
  2 ^ (exponent - 2)

theorem quarter_pos (exponent : ℤ) : 0 < quarter exponent :=
  two_zpow_pos _

/-- How many quarters the interval reaches below the double. -/
def quartersBelow (mantissa : ℕ) (exponent : ℤ) : ℕ :=
  if mantissa = Nat.pow 2 52 ∧ -1074 < exponent then 1 else 2

theorem quartersBelow_le (mantissa : ℕ) (exponent : ℤ) :
    quartersBelow mantissa exponent ≤ 2 := by
  unfold quartersBelow
  split <;> decide

theorem around_denominator_pos (mantissa : ℕ) (exponent : ℤ) :
    0 < (around mantissa exponent).denominator :=
  Nat.pow_pos (by decide)

/-- The ends are whole numbers of quarters. -/
theorem around_end (quarters : ℕ) (exponent : ℤ) :
    ((quarters * Nat.pow 2 (exponent - 2).toNat : ℕ) : ℚ) /
        (Nat.pow 2 (2 - exponent).toNat : ℕ) =
      quarters * quarter exponent := by
  have power := zpow_mul_pow_toNat two_ne_zero (exponent - 2)
  have opposite : -(exponent - 2) = 2 - exponent := by ring
  rw [opposite] at power
  have divisor : (0 : ℚ) < 2 ^ (2 - exponent).toNat := by positivity
  simp only [Nat.pow_eq, Nat.cast_mul, Nat.cast_pow, Nat.cast_ofNat]
  rw [div_eq_iff divisor.ne', quarter, ← power]
  ring

theorem around_low (mantissa : ℕ) (exponent : ℤ) :
    (around mantissa exponent).low =
      (4 * mantissa - quartersBelow mantissa exponent : ℕ) * quarter exponent :=
  around_end _ exponent

theorem around_middle (mantissa : ℕ) (exponent : ℤ) :
    (around mantissa exponent).middle =
      (4 * mantissa : ℕ) * quarter exponent :=
  around_end _ exponent

theorem around_high (mantissa : ℕ) (exponent : ℤ) :
    (around mantissa exponent).high =
      (4 * mantissa + 2 : ℕ) * quarter exponent :=
  around_end _ exponent

theorem middle_lt_high (mantissa : ℕ) (exponent : ℤ) :
    (around mantissa exponent).middle < (around mantissa exponent).high := by
  rw [around_middle, around_high]
  refine mul_lt_mul_of_pos_right ?_ (quarter_pos exponent)
  exact_mod_cast (by omega : 4 * mantissa < 4 * mantissa + 2)

theorem low_lt_middle (positive : 0 < mantissa) (exponent : ℤ) :
    (around mantissa exponent).low < (around mantissa exponent).middle := by
  rw [around_low, around_middle]
  refine mul_lt_mul_of_pos_right ?_ (quarter_pos exponent)
  have some : 0 < quartersBelow mantissa exponent := by
    unfold quartersBelow
    split <;> decide
  exact_mod_cast (by omega :
    4 * mantissa - quartersBelow mantissa exponent < 4 * mantissa)

theorem low_pos (positive : 0 < mantissa) (exponent : ℤ) :
    0 < (around mantissa exponent).low := by
  rw [around_low]
  refine mul_pos ?_ (quarter_pos exponent)
  have few := quartersBelow_le mantissa exponent
  exact_mod_cast (by omega :
    0 < 4 * mantissa - quartersBelow mantissa exponent)

/-- The interval of a double is wider than the last of the grids. -/
theorem middle_lt_width (isCanonical : IsCanonical mantissa exponent)
    (positive : 0 < mantissa) :
    (around mantissa exponent).middle < 10 ^ (16 : ℕ) *
      ((around mantissa exponent).high - (around mantissa exponent).low) := by
  have unit := quarter_pos exponent
  have bits := isCanonical.bits
  have few := quartersBelow_le mantissa exponent
  have narrow : quartersBelow mantissa exponent = 2 ∨
      quartersBelow mantissa exponent = 1 ∧ mantissa = 2 ^ 52 := by
    unfold quartersBelow
    split
    · next isPower => exact .inr ⟨rfl, isPower.1⟩
    · exact .inl rfl
  have quarters : 4 * mantissa < 10 ^ 16 * (4 * mantissa + 2 -
      (4 * mantissa - quartersBelow mantissa exponent)) := by
    omega
  have wide : ((4 * mantissa : ℕ) : ℚ) < 10 ^ 16 * ((4 * mantissa + 2 : ℕ) -
      (4 * mantissa - quartersBelow mantissa exponent : ℕ)) := by
    rw [← Nat.cast_sub (by omega)]
    exact_mod_cast quarters
  rw [around_middle, around_high, around_low, ← sub_mul, ← mul_assoc]
  exact mul_lt_mul_of_pos_right wide unit

/-- The leading binary place of the double, as the difference of two. -/
theorem binary_bounds (positive : 0 < mantissa) (exponent : ℤ) :
    let interval := around mantissa exponent
    let binary : ℤ := interval.center.log2 - interval.denominator.log2
    2 ^ binary ≤ interval.middle ∧ interval.middle < 2 ^ (binary + 1) := by
  dsimp only
  have power : (around mantissa exponent).denominator =
      2 ^ (2 - exponent).toNat := rfl
  have divisor : (0 : ℚ) < 2 ^ (2 - exponent).toNat := by positivity
  have nonzero : (around mantissa exponent).center ≠ 0 := by
    refine (Nat.mul_pos (by omega) (Nat.pow_pos (by decide))).ne'
  rw [middle, power, Nat.log2_two_pow]
  generalize (around mantissa exponent).center = center at nonzero
  generalize (2 - exponent).toNat = places at divisor
  have leading : (2 : ℚ) ^ center.log2 ≤ center := by
    exact_mod_cast Nat.log2_self_le nonzero
  have next : (center : ℚ) < 2 ^ (center.log2 + 1) := by
    exact_mod_cast Nat.lt_log2_self
  have succ : (center.log2 : ℤ) - places + 1 =
      (center.log2 + 1 : ℕ) - (places : ℤ) := by
    push_cast
    ring
  rw [succ, zpow_sub₀ two_ne_zero, zpow_sub₀ two_ne_zero, Nat.cast_pow,
    Nat.cast_ofNat]
  simp only [zpow_natCast]
  constructor
  · exact (div_le_div_iff_of_pos_right divisor).mpr leading
  · exact (div_lt_div_iff_of_pos_right divisor).mpr next

theorem around_middle_eq (mantissa : ℕ) (exponent : ℤ) :
    (around mantissa exponent).middle = mantissa * 2 ^ exponent := by
  rw [around_middle, quarter, zpow_sub₀ two_ne_zero]
  push_cast
  ring

/-- The leading place is that of a power of ten up to the double. -/
theorem leadingPlace_le (isCanonical : IsCanonical mantissa exponent)
    (positive : 0 < mantissa) :
    (10 : ℚ) ^ (around mantissa exponent).leadingPlace ≤
      (around mantissa exponent).middle := by
  have divisor := around_denominator_pos mantissa exponent
  unfold leadingPlace
  dsimp only
  split
  · next reached => exact le_middle_of_reaches divisor reached
  · split
    · next reached => exact le_middle_of_reaches divisor reached
    · obtain ⟨low, high⟩ := binary_bounds positive exponent
      generalize ((around mantissa exponent).center.log2 -
        (around mantissa exponent).denominator.log2 : ℤ) = binary at low high ⊢
      refine (zpow_leastPlace_le ?_ ?_).trans low
      · have atLeast : (2 : ℚ) ^ (-1074 : ℤ) ≤
            (around mantissa exponent).middle := by
          rw [around_middle_eq]
          calc (2 : ℚ) ^ (-1074 : ℤ)
            _ ≤ 2 ^ exponent :=
                zpow_le_zpow_right₀ one_le_two isCanonical.least
            _ ≤ mantissa * 2 ^ exponent :=
                le_mul_of_one_le_left (two_zpow_pos exponent).le
                  (by exact_mod_cast positive)
        have places := (zpow_lt_zpow_iff_right₀ one_lt_two).mp
          (atLeast.trans_lt high)
        omega
      · rw [around_middle_eq] at low
        have below := low.trans_lt isCanonical.lt
        rw [← zpow_natCast] at below
        exact (zpow_lt_zpow_iff_right₀ one_lt_two).mp below

/-! ### Intervals of different doubles -/

section Apart

variable {other : ℕ} {places : ℕ}

/-- In quarters of the lesser double, its interval ends before the other one
begins, or where it begins.  In that case one of the significands is odd. -/
theorem quarters_apart (isCanonical : IsCanonical mantissa exponent)
    (otherCanonical : IsCanonical other (exponent + places))
    (before : mantissa < other * 2 ^ places) :
    let first := (4 * other - quartersBelow other (exponent + places)) *
      2 ^ places
    4 * mantissa + 2 < first ∨
      4 * mantissa + 2 = first ∧ (mantissa % 2 = 1 ∨ other % 2 = 1) := by
  dsimp only
  have bits := isCanonical.bits
  have least := isCanonical.least
  cases places with
  | zero =>
      have few := quartersBelow_le other (exponent + (0 : ℕ))
      rw [pow_zero, mul_one] at before ⊢
      omega
  | succ places =>
      have leading := otherCanonical.leading.resolve_right (by omega)
      have double : 2 ^ (places + 1) = 2 * 2 ^ places := pow_succ' 2 places
      have shift : 1 ≤ 2 ^ places := Nat.one_le_two_pow
      -- A power of two is the only other double whose interval begins this low.
      have first : 2 ^ 54 - 1 ≤
          4 * other - quartersBelow other (exponent + (places + 1 : ℕ)) ∧
          (other % 2 = 1 ∨ 2 ^ 54 ≤
            4 * other - quartersBelow other (exponent + (places + 1 : ℕ)) ∨
            other = 2 ^ 52) := by
        have few := quartersBelow_le other (exponent + (places + 1 : ℕ))
        by_cases isPower : other = 2 ^ 52
        · have one : quartersBelow other (exponent + (places + 1 : ℕ)) = 1 :=
            if_pos ⟨isPower, by omega⟩
          omega
        · omega
      generalize 4 * other - quartersBelow other (exponent + (places + 1 : ℕ)) =
        quarters at first ⊢
      have grown : quarters * 2 ≤ quarters * 2 ^ (places + 1) := by
        refine Nat.mul_le_mul_left quarters ?_
        omega
      omega

/-- No number rounds to two doubles. -/
theorem not_holds_both (isCanonical : IsCanonical mantissa exponent)
    (otherCanonical : IsCanonical other (exponent + places))
    (before : mantissa < other * 2 ^ places) {number : ℚ}
    (holds : (around mantissa exponent).Holds number) :
    ¬ (around other (exponent + places)).Holds number := by
  intro otherHolds
  have unit := quarter_pos exponent
  have grown : quarter (exponent + places) = 2 ^ places * quarter exponent := by
    rw [quarter, quarter, ← zpow_natCast, ← zpow_add₀ two_ne_zero]
    congr 1
    ring
  have high := around_high mantissa exponent
  have low := around_low other (exponent + places)
  rw [grown, ← mul_assoc, ← Nat.cast_ofNat (R := ℚ) (n := 2), ← Nat.cast_pow,
    ← Nat.cast_mul] at low
  have overlap : (around other (exponent + places)).low ≤
      (around mantissa exponent).high :=
    otherHolds.low.trans holds.high
  rcases quarters_apart isCanonical otherCanonical before with
    less | ⟨same, odd⟩
  · refine absurd overlap (not_le.mpr ?_)
    rw [high, low]
    exact mul_lt_mul_of_pos_right (by exact_mod_cast less) unit
  · have meet : (around mantissa exponent).high =
        (around other (exponent + places)).low := by
      rw [high, low, same]
    rcases odd with odd | odd
    · have inner := holds.inner (decide_eq_false (by omega))
      exact absurd (inner.2.trans_eq meet) (not_lt.mpr otherHolds.low)
    · have inner := otherHolds.inner (decide_eq_false (by omega))
      exact absurd (meet.trans_lt inner.1) (not_lt.mpr holds.high)

end Apart

/-- A number that rounds to two doubles shows that they are the same. -/
theorem eq_of_holds {other : ℕ} {otherExponent : ℤ}
    (isCanonical : IsCanonical mantissa exponent)
    (otherCanonical : IsCanonical other otherExponent) {number : ℚ}
    (holds : (around mantissa exponent).Holds number)
    (otherHolds : (around other otherExponent).Holds number) :
    mantissa = other ∧ exponent = otherExponent := by
  wlog ordered : exponent ≤ otherExponent generalizing mantissa exponent other
    otherExponent
  · obtain ⟨sameMantissa, sameExponent⟩ := this otherCanonical isCanonical
      otherHolds holds (le_of_not_ge ordered)
    exact ⟨sameMantissa.symm, sameExponent.symm⟩
  obtain ⟨places, rfl⟩ := Int.le.dest ordered
  cases places with
  | zero =>
      have same : exponent + (0 : ℕ) = exponent := by simp
      rcases lt_trichotomy mantissa other with before | same | after
      · refine absurd otherHolds
          (not_holds_both isCanonical otherCanonical ?_ holds)
        rwa [pow_zero, mul_one]
      · exact ⟨same, by simp⟩
      · rw [same] at otherCanonical otherHolds
        rw [← same] at isCanonical holds
        refine absurd holds
          (not_holds_both otherCanonical isCanonical ?_ otherHolds)
        rwa [pow_zero, mul_one]
  | succ places =>
      refine absurd otherHolds
        (not_holds_both isCanonical otherCanonical ?_ holds)
      have leading := otherCanonical.leading.resolve_right
        (by have := isCanonical.least; omega)
      calc mantissa
        _ < 2 ^ 52 * 2 := isCanonical.bits
        _ ≤ other * 2 ^ (places + 1) :=
            Nat.mul_le_mul leading (Nat.le_self_pow (by omega) 2)

end Interval

/-! ### The decimal of a double -/

section OfDyadic

variable {mantissa : ℕ} {exponent : ℤ}

/-- The decimal of a double rounds to it. -/
theorem holds_ofDyadic (isCanonical : IsCanonical mantissa exponent)
    (positive : 0 < mantissa) :
    (Interval.around mantissa exponent).Holds
      (ofDyadic mantissa exponent).value := by
  unfold ofDyadic
  dsimp only
  rw [Decimal.value_trim]
  refine Interval.holds_search
    (Interval.around_denominator_pos mantissa exponent)
    (Interval.low_lt_middle positive exponent)
    (Interval.middle_lt_high mantissa exponent) ?_
  have leading := Interval.leadingPlace_le isCanonical positive
  have width := Interval.middle_lt_width isCanonical positive
  rw [zpow_sub₀ ten_ne_zero, zpow_natCast, div_lt_iff₀ (by norm_num)]
  linarith

theorem ofDyadic_pos (isCanonical : IsCanonical mantissa exponent)
    (positive : 0 < mantissa) : 0 < (ofDyadic mantissa exponent).value :=
  (Interval.low_pos positive exponent).trans_le
    (holds_ofDyadic isCanonical positive).low

/-- The decimals of different doubles are different numbers. -/
theorem ofDyadic_injective {other : ℕ} {otherExponent : ℤ}
    (isCanonical : IsCanonical mantissa exponent) (positive : 0 < mantissa)
    (otherCanonical : IsCanonical other otherExponent)
    (otherPositive : 0 < other)
    (same : (ofDyadic mantissa exponent).value =
      (ofDyadic other otherExponent).value) :
    mantissa = other ∧ exponent = otherExponent := by
  have holds := holds_ofDyadic isCanonical positive
  rw [same] at holds
  exact Interval.eq_of_holds isCanonical otherCanonical holds
    (holds_ofDyadic otherCanonical otherPositive)

end OfDyadic

end PaneLayout.Shortest
