import PaneLayout.Proofs.Number.Nearest
import PaneLayout.Proofs.Ratio.Sizing

/-!
# Percentages of splits

The percentage of a split is found for every list of shares, however long it is.
Sums of shares stay finite, as a sum that is large enough absorbs further
shares, and for the same reason what a new pane gets is not astronomically more
than what was to be divided.
-/

namespace PaneLayout

open Binary64

theorem beq_zero_of_value {x : Float} (isZero : value? x = some 0) :
    (x == 0) = true := by
  have zero : (0 : Float).toModel.unpack = .zero .positive := rfl
  change x.toModel.unpack.beq (0 : Float).toModel.unpack = true
  rw [zero]
  rw [value?] at isZero
  cases unpacked : x.toModel.unpack with
  | zero sign => rfl
  | infinity sign => rw [unpacked] at isZero; cases isZero
  | notANumber => rw [unpacked] at isZero; cases isZero
  | finite sign mantissa exponent positive =>
      rw [unpacked, exactValue?, signed_mul_zpow] at isZero
      have magnitude : (0 : ℚ) < mantissa * 2 ^ exponent :=
        mul_pos (by exact_mod_cast positive) (two_zpow_pos exponent)
      have absolute := abs_signed sign magnitude.le
      rw [Option.some.inj isZero, abs_zero] at absolute
      exact absurd absolute magnitude.ne

/-- The weight is a share, and not more than a unit. -/
def IsShareWithin (unit : ℤ) (weight : Float) : Prop :=
  ∃ share, value? weight = some share ∧ 0 ≤ share ∧ share ≤ 2 ^ unit

def AreWithin (unit : ℤ) (weights : List Float) : Prop :=
  ∀ weight ∈ weights, IsShareWithin unit weight

theorem IsShare.within {weight : Float} (isShare : IsShare weight) :
    IsShareWithin 0 weight := by
  rwa [IsShareWithin, zpow_zero]

section Unit

variable {unit : ℤ} {weights : List Float}

theorem foldl_within (least : -1074 ≤ unit) (small : unit ≤ 0)
    (within : AreWithin unit weights) {start : Float}
    {value : ℚ} (isValue : value? start = some value) (nonneg : 0 ≤ value)
    (atMost : value ≤ 2 ^ 54 * 2 ^ unit) :
    ∃ sum, value? (weights.foldl (· + ·) start) = some sum ∧ 0 ≤ sum ∧
      sum ≤ 2 ^ 54 * 2 ^ unit := by
  induction weights generalizing start value with
  | nil => exact ⟨value, isValue, nonneg, atMost⟩
  | cons weight weights induction =>
      obtain ⟨⟨share, isShare, shareNonneg, shareSmall⟩, rest⟩ :=
        List.forall_mem_cons.mp within
      obtain ⟨next, isNext, nextNonneg, nextAtMost⟩ :=
        value_add_small isValue isShare least small nonneg atMost shareNonneg
          shareSmall
      exact induction rest isNext nextNonneg nextAtMost

theorem totalWeight_within (least : -1074 ≤ unit) (small : unit ≤ 0)
    (within : AreWithin unit weights) :
    ∃ sum, value? (totalWeight weights) = some sum ∧ 0 ≤ sum ∧
      sum ≤ 2 ^ 54 * 2 ^ unit :=
  foldl_within least small within value_zero_literal le_rfl (by positivity)

/-- Shares have a unit that is not much greater than the greatest of them, or as
small as units can be. -/
theorem exists_unit (shares : ∀ weight ∈ weights, IsShare weight) :
    ∃ unit : ℤ, -1074 ≤ unit ∧ unit ≤ 0 ∧
      AreWithin unit weights ∧
      (unit = -1074 ∨ ∃ weight ∈ weights, ∃ share,
        value? weight = some share ∧ (2 : ℚ) ^ (unit - 1) < share) := by
  classical
  have exists_step : ∃ step : ℕ, AreWithin (step - 1074) weights :=
    ⟨1074, fun weight member => (shares weight member).within⟩
  have most := Nat.find_min' exists_step (m := 1074)
    fun weight member => (shares weight member).within
  refine ⟨Nat.find exists_step - 1074, by omega, by omega,
    Nat.find_spec exists_step, ?_⟩
  cases isLeast : Nat.find exists_step with
  | zero => exact .inl (by omega)
  | succ step =>
      -- The next smaller unit is exceeded by some share.
      right
      have tooSmall : ¬ AreWithin (step - 1074) weights :=
        Nat.find_min exists_step (by omega)
      simp only [AreWithin, not_forall] at tooSmall
      obtain ⟨weight, member, large⟩ := tooSmall
      obtain ⟨share, isShare, nonneg, _⟩ := shares weight member
      refine ⟨weight, member, share, isShare, ?_⟩
      have above : (2 : ℚ) ^ ((step : ℤ) - 1074) < share :=
        lt_of_not_ge fun small => large ⟨share, isShare, nonneg, small⟩
      convert above using 2
      push_cast
      ring

end Unit

/-- A sum of shares is at least half of the unit of some of them, unless it is
zero. -/
theorem half_unit_le {weight : Float} {weights : List Float}
    (shares : ∀ share ∈ weight :: weights, IsShare share) {whole : ℚ}
    (isWhole : value? (totalWeight (weight :: weights)) = some whole)
    (nonzero : whole ≠ 0) {unit : ℤ}
    (isUnit : unit = -1074 ∨ ∃ weight ∈ weights, ∃ share,
      value? weight = some share ∧ (2 : ℚ) ^ (unit - 1) < share) :
    (2 : ℚ) ^ (unit - 1) ≤ whole := by
  have nonneg : ∀ share ∈ weight :: weights, AtLeast 0 share := by
    intro weight member
    obtain ⟨share, isShare, nonneg, _⟩ := shares weight member
    exact atLeast_of_nonneg isShare nonneg
  have le_whole : ∀ {bound : ℚ},
      AtLeast bound (totalWeight (weight :: weights)) → bound ≤ whole := by
    rintro bound (infinite | ⟨value, isValue, low⟩)
    · rw [value?, infinite] at isWhole
      cases isWhole
    · rw [isWhole] at isValue
      cases isValue
      exact low
  rcases isUnit with rfl | ⟨part, member, share, isShare, above⟩
  · have positive : 0 < whole :=
      (le_whole (totalWeight_nonneg nonneg)).lt_of_ne' nonzero
    obtain ⟨n, rfl⟩ := (representable_of_value isWhole).multiple
    have some : (1 : ℚ) ≤ n := by
      exact_mod_cast pos_of_mul_pos_left positive (two_zpow_pos _).le
    have one_le := le_mul_of_one_le_left (two_zpow_pos (-1074)).le some
    exact (zpow_le_zpow_right₀ one_le_two (by norm_num)).trans one_le
  · exact above.le.trans (le_whole
      (le_totalWeight nonneg (List.mem_cons_of_mem _ member) isShare))

/-- What some of several shares are to the sum of all, as a percentage that is
not astronomical. -/
theorem exists_percentage {weight : Float} {weights : List Float}
    (shares : ∀ share ∈ weight :: weights, IsShare share) {whole : ℚ}
    (isWhole : value? (totalWeight (weight :: weights)) = some whole)
    (nonzero : whole ≠ 0) :
    ∃ quotient, value? (100 * totalWeight weights /
        totalWeight (weight :: weights)) = some quotient ∧
      0 ≤ quotient ∧ quotient ≤ 2 ^ 62 := by
  obtain ⟨unit, least, small, within, isUnit⟩ := exists_unit
    fun share member => shares share (List.mem_cons_of_mem _ member)
  obtain ⟨created, isCreated, nonneg, atMost⟩ :=
    totalWeight_within least small within
  -- What is created is at most `2 ^ 54` units, and what there was is at least
  -- half a unit, however many shares there are.
  have half := half_unit_le shares isWhole nonzero isUnit
  have positive := two_zpow_pos unit
  have wholePositive := (two_zpow_pos (unit - 1)).trans_le half
  rw [zpow_sub_one₀ two_ne_zero] at half
  have isHundred : value? 100 = some ((100 : ℕ) : ℚ) :=
    (rounds_ofNat 100).eq (representable_of_nat (by norm_num))
  have isSmall : (2 : ℚ) ^ unit ≤ 1 := zpow_le_one_of_nonpos₀ one_le_two small
  have has : Representable (2 ^ unit * 2 ^ 61) := by
    have one : Representable ((1 : ℤ) * 2 ^ unit) :=
      representable_mul_zpow least (by norm_num) (by norm_num) (by
        rw [Int.cast_one, one_mul]
        exact isSmall.trans_lt (one_lt_pow₀ one_lt_two (by norm_num)))
    rw [Int.cast_one, one_mul] at one
    refine one.mul_two_pow 61 ?_
    rw [abs_of_pos (by positivity)]
    exact (mul_le_of_le_one_left (by positivity) isSmall).trans_lt
      (pow_lt_range (by norm_num))
  obtain ⟨product, isProduct, productNonneg, productAtMost⟩ :=
    (rounds_mul isHundred isCreated).between representable_zero has
      (by positivity) (by push_cast; nlinarith)
  refine (rounds_div isProduct isWhole nonzero).between representable_zero
    (representable_two_pow (by norm_num)) (by positivity) ?_
  rw [div_le_iff₀ wholePositive]
  nlinarith

/-- The percentage of a split of shares is found without a fault. -/
theorem splitPercentage_ok {weights : List Float}
    (shares : ∀ weight ∈ weights, IsShare weight) (index : ℕ) :
    ∃ percentage, splitPercentage weights (index + 1 : ℕ) = .ok percentage := by
  have before : ((index + 1 : ℕ) : ℤ) - 1 = index := by push_cast; ring
  unfold splitPercentage
  rw [before, restFrom_ofNat, restFrom_ofNat]
  dsimp only
  split
  · exact ⟨50, rfl⟩
  · next notZero =>
    cases rest : weights.drop index with
    | nil =>
        rw [rest] at notZero
        exact absurd (beq_zero_of_value value_zero_literal) notZero
    | cons weight later =>
        have isLater : weights.drop (index + 1) = later := by
          rw [← List.tail_drop, rest, List.tail_cons]
        have inside : ∀ share ∈ weight :: later, IsShare share :=
          fun share member => shares share
            (List.drop_subset index weights (rest ▸ member))
        obtain ⟨whole, isWhole, _⟩ := totalWeight_within (by norm_num) le_rfl
          fun share member => (inside share member).within
        have nonzero : whole ≠ 0 := by
          rintro rfl
          rw [rest] at notZero
          exact notZero (beq_zero_of_value isWhole)
        obtain ⟨quotient, isQuotient, nonneg, atMost⟩ :=
          exists_percentage inside isWhole nonzero
        obtain ⟨rounded, isRounded, _⟩ := roundHalfUp_between isQuotient
          representable_zero
          (representable_two_pow (show 63 < 1024 by norm_num))
          (by linarith) (by linarith)
        rw [isLater, clampPercentage, isRounded]
        exact ⟨_, rfl⟩

end PaneLayout
