import PaneLayout.Proofs.Number.Arithmetic
import PaneLayout.Ratio

/-!
# Cell counts of dynamic splits

The weights of a planned ratio are shares between zero and one.  As long as the
numbers of cells are not astronomical, the share of a pane is therefore a finite
double, and rounding it is not an error.
-/

namespace PaneLayout

open Binary64

/-- The weight is a share between zero and one. -/
def IsShare (weight : Float) : Prop :=
  ∃ share, value? weight = some share ∧ 0 ≤ share ∧ share ≤ 1

/-! ### Normalized weights -/

theorem value_zero_literal : value? 0 = some 0 := rfl

theorem value_add_zero {x : Float} {value : ℚ}
    (isValue : value? x = some value) : value? (x + 0) = some value := by
  have sum := rounds_add isValue value_zero_literal
  rw [add_zero] at sum
  exact sum.eq (representable_of_value isValue)

theorem atLeast_of_nonneg {weight : Float} {share : ℚ}
    (isShare : value? weight = some share) (nonneg : 0 ≤ share) :
    AtLeast 0 weight :=
  .inr ⟨share, isShare, nonneg⟩

/-- Adding weights does not decrease a sum. -/
theorem atLeast_foldl {bound : ℚ} (has : Representable bound)
    {weights : List Float} (nonneg : ∀ weight ∈ weights, AtLeast 0 weight)
    {start : Float} (low : AtLeast bound start) :
    AtLeast bound (weights.foldl (· + ·) start) := by
  induction weights generalizing start with
  | nil => exact low
  | cons weight weights induction =>
      obtain ⟨first, rest⟩ := List.forall_mem_cons.mp nonneg
      refine induction rest ?_
      have sum := atLeast_add low first (by rwa [add_zero])
      rwa [add_zero] at sum

theorem totalWeight_nonneg {weights : List Float}
    (nonneg : ∀ weight ∈ weights, AtLeast 0 weight) :
    AtLeast 0 (totalWeight weights) :=
  atLeast_foldl representable_zero nonneg
    (atLeast_of_nonneg value_zero_literal le_rfl)

/-- A sum of weights is not less than any of them. -/
theorem le_totalWeight {weights : List Float}
    (nonneg : ∀ weight ∈ weights, AtLeast 0 weight) {weight : Float}
    {value : ℚ} (member : weight ∈ weights)
    (isValue : value? weight = some value) :
    AtLeast value (totalWeight weights) := by
  obtain ⟨before, after, rfl⟩ := List.append_of_mem member
  simp only [List.forall_mem_append, List.forall_mem_cons] at nonneg
  have has := representable_of_value isValue
  rw [totalWeight, List.foldl_append, List.foldl_cons]
  refine atLeast_foldl has nonneg.2.2 ?_
  have sum := atLeast_add (totalWeight_nonneg nonneg.1)
    (.inr ⟨value, isValue, le_rfl⟩) (by rwa [zero_add])
  rwa [zero_add] at sum

/-- A part of something is a share of it. -/
theorem isShare_div {part whole : Float} {value : ℚ}
    (isPart : value? part = some value) (positive : 0 < value)
    (above : AtLeast value whole) : IsShare (part / whole) := by
  rcases above with infinite | ⟨total, isTotal, above⟩
  · exact ⟨0, value_div_infinity isPart infinite, le_rfl, zero_le_one⟩
  · have totalPositive := positive.trans_le above
    have one := representable_of_nat (n := 1) (by norm_num)
    rw [Nat.cast_one] at one
    exact (rounds_div isPart isTotal totalPositive.ne').between
      representable_zero one (by positivity)
      ((div_le_one totalPositive).mpr above)

/-- The weights that ratios are read with. -/
def IsGivenWeight (weight : Float) : Prop :=
  weight.isFinite = true ∧ 0 < weight

instance (weight : Float) : Decidable (IsGivenWeight weight) :=
  inferInstanceAs (Decidable (_ ∧ _))

theorem IsGivenWeight.exists_value {weight : Float}
    (given : IsGivenWeight weight) :
    ∃ value, value? weight = some value ∧ 0 < value := by
  obtain ⟨value, isValue⟩ := exists_value_of_isFinite given.1
  exact ⟨value, isValue, (zero_lt_iff isValue).mp given.2⟩

theorem isShare_normalizeWeights {weights : List Float}
    (given : ∀ weight ∈ weights, IsGivenWeight weight) :
    ∀ weight ∈ normalizeWeights weights, IsShare weight := by
  have nonneg : ∀ weight ∈ weights, AtLeast 0 weight := by
    intro weight member
    obtain ⟨value, isValue, positive⟩ := (given weight member).exists_value
    exact atLeast_of_nonneg isValue positive.le
  unfold normalizeWeights
  dsimp only
  split
  · intro share member
    obtain ⟨weight, isWeight, rfl⟩ := List.mem_map.mp member
    have one := representable_of_nat (n := 1) (by norm_num)
    have isOne : value? 1 = some ((1 : ℕ) : ℚ) := (rounds_ofNat 1).eq one
    refine isShare_div isOne (by norm_num) ?_
    refine (rounds_ofNat weights.length).atLeast _ one ?_
    exact_mod_cast List.length_pos_of_mem isWeight
  · intro share member
    obtain ⟨weight, isWeight, rfl⟩ := List.mem_map.mp member
    obtain ⟨value, isValue, positive⟩ := (given weight isWeight).exists_value
    exact isShare_div isValue positive (le_totalWeight nonneg isWeight isValue)

theorem length_normalizeWeights (weights : List Float) :
    (normalizeWeights weights).length = weights.length := by
  unfold normalizeWeights
  dsimp only
  split <;> exact List.length_map ..

namespace Ratio

theorem weights_withWeights {ratio : Ratio} {weights : List Float}
    (same : weights.length = ratio.weights.length) :
    (ratio.withWeights weights).weights = weights := by
  induction ratio generalizing weights with
  | nil => exact (List.eq_nil_of_length_eq_zero same).symm
  | cons entry ratio induction =>
      cases entry with
      | cells count positive => exact induction same
      | weight value =>
          cases weights with
          | nil => cases same
          | cons first weights =>
              exact congrArg (first :: ·) (induction (Nat.succ.inj same))

/-- The weights of the ratio are fractions of the sum of weights that were
given. -/
def IsNormalized (ratio : Ratio) : Prop :=
  ∃ given : Ratio, (∀ weight ∈ given.weights, IsGivenWeight weight) ∧
    ratio = given.normalize

theorem IsNormalized.isShare {ratio : Ratio} (normalized : ratio.IsNormalized) :
    ∀ weight ∈ ratio.weights, IsShare weight := by
  obtain ⟨given, areGiven, rfl⟩ := normalized
  rw [normalize, weights_withWeights (length_normalizeWeights _)]
  exact isShare_normalizeWeights areGiven

end Ratio

/-! ### Rounding a share of some cells -/

theorem value_half : value? 0.5 = some (1 / 2) := by
  have half : (0.5 : Float).toModel.unpack =
      .finite .positive (2 ^ 52) (-53) (Nat.two_pow_pos 52) := rfl
  rw [value?, half, exactValue?, Float.Model.UnpackedFloat.Sign.apply]
  norm_num

/-- Rounding to the nearest whole number keeps to bounds that leave room for a
half. -/
theorem roundHalfUp_between {x : Float} {value low high : ℚ}
    (isValue : value? x = some value) (hasLow : Representable low)
    (hasHigh : Representable high) (above : low ≤ value + 1 / 2)
    (below : value + 1 / 2 ≤ high) :
    ∃ n, roundHalfUp x = .ok n ∧ ⌊low⌋ ≤ n ∧ n ≤ ⌊high⌋ := by
  obtain ⟨sum, isSum, sumLow, sumHigh⟩ :=
    (rounds_add isValue value_half).between hasLow hasHigh above below
  exact ⟨⌊sum⌋, floor_of_value isSum, Int.floor_le_floor sumLow,
    Int.floor_le_floor sumHigh⟩

section Share

variable {weight whole : Float} {share : ℚ} {cells : ℤ} {power : ℕ}

theorem pow_lt_range (small : power < 1024) : (2 : ℚ) ^ power < 2 ^ 1024 :=
  pow_lt_pow_right₀ one_lt_two small

/-- The double nearest to a number of cells that is not astronomical. -/
theorem value_ofInt (small : power < 1024) (few : |cells| ≤ 2 ^ power) :
    ∃ value, value? (Float.ofInt cells) = some value ∧ |value| ≤ 2 ^ power ∧
      (cells ≤ 0 → value ≤ 0) := by
  have cast : |(cells : ℚ)| ≤ 2 ^ power := by exact_mod_cast few
  obtain ⟨low, high⟩ := abs_le.mp cast
  have has := representable_two_pow small
  have rounds := rounds_ofInt cells
  obtain ⟨value, isValue, above, below⟩ := rounds.between has.neg has low high
  refine ⟨value, isValue, abs_le.mpr ⟨above, below⟩, fun nonpositive => ?_⟩
  exact rounds.value_le isValue representable_zero
    (by exact_mod_cast nonpositive)

/-- A number of cells times a share, before it is divided. -/
theorem value_mul_share {x : Float} {value : ℚ} (small : power < 1024)
    (isValue : value? x = some value) (bounded : |value| ≤ 2 ^ power)
    (isShare : value? weight = some share) (nonneg : 0 ≤ share)
    (atMost : share ≤ 1) :
    ∃ product, value? (x * weight) = some product ∧
      |product| ≤ share * 2 ^ power ∧ (value ≤ 0 → product ≤ 0) := by
  have has : Representable (share * 2 ^ power) := by
    refine (representable_of_value isShare).mul_two_pow power ?_
    rw [abs_of_nonneg (by positivity)]
    refine lt_of_le_of_lt ?_ (pow_lt_range small)
    exact mul_le_of_le_one_left (by positivity) atMost
  have rounds := rounds_mul isValue isShare
  obtain ⟨low, high⟩ := abs_le.mp bounded
  have above : -(share * 2 ^ power) ≤ value * share := by nlinarith
  obtain ⟨product, isProduct, productLow, productHigh⟩ :=
    rounds.between has.neg has above (by nlinarith)
  refine ⟨product, isProduct, abs_le.mpr ⟨productLow, productHigh⟩, ?_⟩
  intro nonpositive
  exact rounds.value_le isProduct representable_zero
    (mul_nonpos_of_nonpos_of_nonneg nonpositive nonneg)

/-- The share of a number of cells. -/
theorem value_share_div {x : Float} {product : ℚ} (small : power < 1024)
    (isProduct : value? x = some product)
    (bounded : |product| ≤ share * 2 ^ power)
    (above : AtLeast share whole) (positive : 0 < whole) :
    ∃ quotient, value? (x / whole) = some quotient ∧
      |quotient| ≤ 2 ^ power ∧ (product ≤ 0 → quotient ≤ 0) := by
  rcases above with infinite | ⟨total, isTotal, above⟩
  · exact ⟨0, value_div_infinity isProduct infinite,
      by rw [abs_zero]; positivity, fun _ => le_rfl⟩
  · have totalPositive := (zero_lt_iff isTotal).mp positive
    have has := representable_two_pow small
    have rounds := rounds_div isProduct isTotal totalPositive.ne'
    have most : |product / total| ≤ 2 ^ power := by
      rw [abs_div, abs_of_pos totalPositive, div_le_iff₀ totalPositive,
        mul_comm]
      exact bounded.trans (mul_le_mul_of_nonneg_right above (by positivity))
    obtain ⟨low, high⟩ := abs_le.mp most
    obtain ⟨quotient, isQuotient, quotientLow, quotientHigh⟩ :=
      rounds.between has.neg has low high
    refine ⟨quotient, isQuotient, abs_le.mpr ⟨quotientLow, quotientHigh⟩, ?_⟩
    intro nonpositive
    exact rounds.value_le isQuotient representable_zero
      (div_nonpos_of_nonpos_of_nonneg nonpositive totalPositive.le)

/-- A share of a number of cells is rounded without a fault, and it is not
positive if there are no cells to share. -/
theorem roundHalfUp_share (small : power < 1023) (few : |cells| ≤ 2 ^ power)
    (isShare : value? weight = some share) (nonneg : 0 ≤ share)
    (atMost : share ≤ 1) (above : AtLeast share whole) (positive : 0 < whole) :
    ∃ n, roundHalfUp (Float.ofInt cells * weight / whole) = .ok n ∧
      (cells ≤ 0 → n ≤ 0) := by
  obtain ⟨value, isValue, bounded, sign⟩ := value_ofInt (by omega) few
  obtain ⟨product, isProduct, productBounded, productSign⟩ :=
    value_mul_share (by omega) isValue bounded isShare nonneg atMost
  obtain ⟨quotient, isQuotient, quotientBounded, quotientSign⟩ :=
    value_share_div (by omega) isProduct productBounded above positive
  obtain ⟨low, high⟩ := abs_le.mp quotientBounded
  have has := representable_two_pow (show power < 1024 by omega)
  have one : (1 : ℚ) ≤ 2 ^ power := one_le_pow₀ one_le_two
  obtain ⟨n, rounded, _, _⟩ := roundHalfUp_between isQuotient has.neg
    (representable_two_pow (show power + 1 < 1024 by omega))
    (by linarith) (by rw [pow_succ]; linarith)
  refine ⟨n, rounded, fun nonpositive => ?_⟩
  -- The same rounding once more, with the bound that the sign gives.
  obtain ⟨other, isOther, _, below⟩ := roundHalfUp_between isQuotient has.neg
    (representable_of_value value_half) (by linarith)
    (by linarith [quotientSign (productSign (sign nonpositive))])
  rw [rounded] at isOther
  cases isOther
  norm_num at below
  exact below

end Share

/-! ### Cells of a target -/

namespace DynamicSizing

/-- The weights of the sizing are those of a planned ratio. -/
structure IsPlanned (sizing : DynamicSizing) : Prop where
  target : ∀ weight, sizing.target = .weight weight → IsShare weight
  remaining : AtLeast 0 sizing.remainingWeight

/-- The cells that stay in a pane are found without a fault, and there are none
if a weight has no cells to share. -/
theorem IsPlanned.exists_targetCells {sizing : DynamicSizing}
    (planned : sizing.IsPlanned) {paneCells : ℤ} {power : ℕ}
    (small : power < 1023)
    (few : |paneCells - sizing.remainingCells| ≤ 2 ^ power) :
    ∃ target, sizing.targetCells paneCells = .ok target ∧
      ∀ weight, sizing.target = .weight weight →
        paneCells - sizing.remainingCells ≤ 0 → target ≤ 0 := by
  unfold targetCells
  cases isTarget : sizing.target with
  | cells count positive =>
      exact ⟨count, rfl, fun _ isWeight => by cases isWeight⟩
  | weight weight =>
      dsimp only
      split
      · next positive =>
        obtain ⟨share, isShare, nonneg, atMost⟩ :=
          planned.target weight isTarget
        have has := representable_of_value isShare
        have above := atLeast_add (.inr ⟨share, isShare, le_rfl⟩)
          planned.remaining (by rwa [add_zero])
        rw [add_zero] at above
        obtain ⟨value, isValue, _⟩ := value_ofInt (by omega) few
        obtain ⟨target, rounded, sign⟩ :=
          roundHalfUp_share small few isShare nonneg atMost above positive
        rw [ofInt_of_value isValue]
        exact ⟨target, rounded, fun _ _ => sign⟩
      · exact ⟨_, rfl, fun _ _ nonpositive => nonpositive⟩

end DynamicSizing

theorem mem_of_elementAt? {α : Type} {items : List α} {position : Int}
    {item : α} (found : elementAt? items position = some item) :
    item ∈ items := by
  unfold elementAt? at found
  split at found
  · exact List.mem_of_getElem? found
  · split at found
    · exact List.mem_of_getElem? found
    · cases found

theorem restFrom_subset {α : Type} (items : List α) (position : Int) :
    restFrom items position ⊆ items := by
  unfold restFrom
  split <;> exact List.drop_subset _ _

/-- The sizing of a split of a planned ratio. -/
theorem Ratio.IsNormalized.isPlanned {ratio : Ratio}
    (normalized : ratio.IsNormalized) {index : Int} {sizing : DynamicSizing}
    (ok : ratio.dynamicSizing index = .ok sizing) : sizing.IsPlanned := by
  unfold dynamicSizing at ok
  dsimp only at ok
  cases found : elementAt? ratio (index - 1) with
  | none =>
      rw [found] at ok
      cases ok
  | some target =>
      rw [found] at ok
      cases ok
      constructor
      · rintro weight rfl
        exact normalized.isShare weight
          (List.mem_filterMap.mpr ⟨_, mem_of_elementAt? found, rfl⟩)
      · refine totalWeight_nonneg fun weight member => ?_
        have inside := List.filterMap_subset RatioEntry.weight?
          (restFrom_subset ratio index) member
        obtain ⟨share, isShare, nonneg, _⟩ := normalized.isShare weight inside
        exact atLeast_of_nonneg isShare nonneg

/-! ### A share of everything -/

/-- Dividing what a weight was multiplied with by that weight gives it back. -/
def RoundsBack (cells : ℕ) (weight : Float) : Prop :=
  (do roundHalfUp ((← Binary64.ofInt cells) * weight / (weight + 0))) =
    .ok (cells : ℤ)

section RoundsBack

variable {weight : Float} {share : ℚ} {cells : ℕ}

theorem representable_of_quarters {r : ℚ} {n : ℕ} (small : n ≤ 2 ^ 53)
    (quarters : r * 4 = n) : Representable r := by
  obtain rfl : r = n / 4 := eq_div_of_mul_eq four_ne_zero quarters
  have cast : (n : ℚ) ≤ 2 ^ 53 := by exact_mod_cast small
  refine ⟨⟨n, -2, ?_, by norm_num, ?_⟩, ?_⟩
  · rw [Nat.abs_cast]
    exact_mod_cast small
  · rw [Int.cast_natCast, zpow_neg, div_eq_mul_inv]
    norm_num
  · rw [abs_of_nonneg (by positivity)]
    have fewer : (n : ℚ) / 4 ≤ 2 ^ 53 := by linarith
    exact fewer.trans_lt (pow_lt_range (by norm_num))

theorem value_ofInt_of_le (few : cells ≤ 2 ^ 50) :
    value? (Float.ofInt cells) = some (cells : ℚ) :=
  (rounds_ofInt cells).eq (representable_of_nat (few.trans (by norm_num)))

/-- A product is a quarter of the weight away from the exact one at most. -/
theorem value_mul_weight (positive : 0 < cells) (few : cells ≤ 2 ^ 50)
    (isShare : value? weight = some share) (sharePositive : 0 < share)
    (atMost : share ≤ 1) :
    ∃ product, value? (Float.ofInt cells * weight) = some product ∧
      (cells - 1 / 4) * share ≤ product ∧
        product ≤ (cells + 1 / 4) * share := by
  have cast : (cells : ℚ) ≤ 2 ^ 50 := by exact_mod_cast few
  have castPositive : (0 : ℚ) < cells := by exact_mod_cast positive
  obtain ⟨n, isMultiple⟩ := (representable_of_value isShare).multiple
  have product : (cells : ℚ) * share ≤ 2 ^ 50 := by nlinarith
  obtain ⟨low, high, hasLow, hasHigh, closeLow, below, above, closeHigh⟩ :=
    exists_neighbours (mul_pos castPositive sharePositive)
      ⟨cells * n, by rw [isMultiple, Int.cast_mul, Int.cast_natCast, mul_assoc]⟩
      (product.trans_lt (pow_lt_pow_right₀ one_lt_two (by norm_num)))
  obtain ⟨value, isValue, valueLow, valueHigh⟩ :=
    (rounds_mul (value_ofInt_of_le few) isShare).between hasLow hasHigh below
      above
  have close : (cells : ℚ) * share / 2 ^ 52 ≤ share / 4 := by
    rw [div_le_div_iff₀ (by positivity) (by norm_num)]
    nlinarith
  exact ⟨value, isValue, by linarith, by linarith⟩

/-- Up to `2 ^ 50` cells are given back. -/
theorem roundsBack_of_le (positive : 0 < cells) (few : cells ≤ 2 ^ 50)
    (isShare : value? weight = some share) (sharePositive : 0 < share)
    (atMost : share ≤ 1) : RoundsBack cells weight := by
  have hasLow : Representable ((cells : ℚ) - 1 / 4) :=
    representable_of_quarters (n := 4 * cells - 1) (by omega) (by
      rw [Nat.cast_sub (by omega)]
      push_cast
      ring)
  have hasHigh : Representable ((cells : ℚ) + 1 / 4) :=
    representable_of_quarters (n := 4 * cells + 1) (by omega) (by
      push_cast
      ring)
  have hasTop : Representable ((cells : ℚ) + 3 / 4) :=
    representable_of_quarters (n := 4 * cells + 3) (by omega) (by
      push_cast
      ring)
  have floor : ∀ {x : ℚ}, 0 ≤ x → x < 1 → ⌊(cells : ℚ) + x⌋ = cells := by
    intro x nonneg small
    rw [Int.floor_eq_iff, Int.cast_natCast]
    constructor <;> linarith
  obtain ⟨product, isProduct, low, high⟩ :=
    value_mul_weight positive few isShare sharePositive atMost
  obtain ⟨quotient, isQuotient, quotientLow, quotientHigh⟩ :=
    (rounds_div isProduct (value_add_zero isShare) sharePositive.ne').between
      hasLow hasHigh ((le_div_iff₀ sharePositive).mpr low)
      ((div_le_iff₀ sharePositive).mpr high)
  -- Half a cell more than the quotient is still less than one cell too many.
  obtain ⟨n, rounded, atLeast, below⟩ := roundHalfUp_between isQuotient hasHigh
    hasTop (by linarith) (by linarith)
  rw [floor (by norm_num) (by norm_num)] at atLeast below
  obtain rfl : n = cells := le_antisymm below atLeast
  rw [RoundsBack, ofInt_of_value (value_ofInt_of_le few)]
  exact rounded

end RoundsBack

end PaneLayout
