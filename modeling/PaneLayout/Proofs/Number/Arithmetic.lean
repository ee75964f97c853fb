import PaneLayout.Proofs.Number.Rounding

/-!
# Arithmetic on doubles

Sums, products and quotients of finite doubles are rounded once, and so are
whole numbers.  Together with bounds that the format has, this tells when a
result is finite, and between which numbers it lies.
-/

namespace PaneLayout.Binary64

open Float.Model Float.Model.UnpackedFloat

/-! ### The doubles themselves -/

/-- The significand of a finite double has 53 bits, or the exponent is the least
one. -/
structure IsCanonical (mantissa : ℕ) (exponent : ℤ) : Prop where
  bits : mantissa < 2 ^ 53
  least : -1074 ≤ exponent
  greatest : exponent ≤ 971
  leading : 2 ^ 52 ≤ mantissa ∨ exponent = -1074

theorem isCanonical_unpack {x : Float} {sign : Sign} {mantissa : ℕ}
    {exponent : ℤ} {positive : 0 < mantissa}
    (unpacked : x.toModel.unpack = .finite sign mantissa exponent positive) :
    IsCanonical mantissa exponent := by
  have bias : (Format.binary64.exponentBias : ℤ) = 1023 := by decide
  have width : (Format.binary64.mantissaBitsWithoutImplicit : ℤ) = 52 := by
    decide
  unfold Float.Model.unpack UnpackedFloat.unpack at unpacked
  generalize x.toModel.toBits.toBitVec = bits at unpacked
  have fraction : (@unpackMantissa .binary64 bits).toNat < 2 ^ 52 :=
    BitVec.isLt _
  have field : (@unpackExponent .binary64 bits).toNat < 2048 :=
    BitVec.isLt _
  dsimp only at unpacked
  split at unpacked
  · split at unpacked <;> cases unpacked
  · next notAll =>
    rw [← BitVec.toNat_inj] at notAll
    split at unpacked
    · next none =>
      rw [← BitVec.toNat_inj] at none
      split at unpacked
      · cases unpacked
      · cases unpacked
        rw [none]
        exact ⟨by omega, by simp [bias], by simp [bias], .inr (by simp [bias])⟩
    · next notNone =>
      rw [← BitVec.toNat_inj] at notNone
      cases unpacked
      have leading : (1#1 ++ @unpackMantissa .binary64 bits).toNat =
          2 ^ 52 + (@unpackMantissa .binary64 bits).toNat := by
        rw [BitVec.toNat_append, ← Nat.shiftLeft_add_eq_or_of_lt fraction]
        rfl
      rw [leading]
      simp only [BitVec.reduceNeg, BitVec.toNat_ofNat, Nat.reducePow,
        Nat.mod_succ, Nat.zero_mod] at notAll notNone
      refine ⟨by omega, ?_, ?_, .inl (by omega)⟩ <;> rw [bias, width] <;> omega

/-- What the exact value of a finite double looks like. -/
inductive Finite (x : Float) : ℚ → Prop where
  | zero {sign : Sign} : x.toModel.unpack = .zero sign → Finite x 0
  | nonzero {sign : Sign} {mantissa : ℕ} {exponent : ℤ}
      {positive : 0 < mantissa} :
      x.toModel.unpack = .finite sign mantissa exponent positive →
      IsCanonical mantissa exponent →
      Finite x (signed sign (mantissa * 2 ^ exponent))

theorem finite_of_value {x : Float} {value : ℚ}
    (isValue : value? x = some value) : Finite x value := by
  rw [value?] at isValue
  cases unpacked : x.toModel.unpack with
  | infinity sign => rw [unpacked] at isValue; cases isValue
  | notANumber => rw [unpacked] at isValue; cases isValue
  | zero sign =>
      rw [unpacked] at isValue
      cases isValue
      exact .zero unpacked
  | finite sign mantissa exponent positive =>
      rw [unpacked, exactValue?, signed_mul_zpow] at isValue
      cases isValue
      exact .nonzero unpacked (isCanonical_unpack unpacked)

theorem signed_neg (sign : Sign) (magnitude : ℚ) :
    signed (-sign) magnitude = -signed sign magnitude := by
  cases sign <;> simp [signed]

theorem signed_mul (sign other : Sign) (first second : ℚ) :
    signed (sign * other) (first * second) =
      signed sign first * signed other second := by
  cases sign <;> cases other <;> simp [signed]

theorem signed_div (sign other : Sign) (first second : ℚ) :
    signed (sign / other) (first / second) =
      signed sign first / signed other second := by
  have same : sign / other = sign * other := by
    cases sign <;> cases other <;> rfl
  rw [same, div_eq_mul_inv, signed_mul, div_eq_mul_inv]
  cases other <;> simp [signed, inv_neg]

theorem abs_signed {magnitude : ℚ} (sign : Sign) (nonneg : 0 ≤ magnitude) :
    |signed sign magnitude| = magnitude := by
  cases sign <;> simp [signed, abs_of_nonneg nonneg]

theorem IsCanonical.lt {mantissa : ℕ} {exponent : ℤ}
    (isCanonical : IsCanonical mantissa exponent) :
    (mantissa : ℚ) * 2 ^ exponent < 2 ^ 1024 := by
  have power : (2 : ℚ) ^ (1024 : ℕ) = 2 ^ (53 : ℕ) * 2 ^ (971 : ℤ) := by
    rw [show (971 : ℤ) = ((971 : ℕ) : ℤ) from rfl, zpow_natCast, ← pow_add]
  rw [power]
  exact mul_lt_mul (by exact_mod_cast isCanonical.bits)
    (zpow_le_zpow_right₀ one_le_two isCanonical.greatest) (two_zpow_pos _)
    (by positivity)

theorem representable_of_value {x : Float} {value : ℚ}
    (isValue : value? x = some value) : Representable value := by
  cases finite_of_value isValue with
  | zero => exact representable_zero
  | @nonzero sign mantissa exponent positive _ isCanonical =>
      refine ⟨⟨sign.apply mantissa, exponent, ?_, isCanonical.least, ?_⟩, ?_⟩
      · have bits : (mantissa : ℤ) ≤ 2 ^ 53 := by
          exact_mod_cast isCanonical.bits.le
        cases sign <;> simpa [Sign.apply] using bits
      · rw [signed_mul_zpow]
      · rw [abs_signed sign (by positivity)]
        exact isCanonical.lt

/-! ### Operations -/

theorem isFine_mul {first second : ℕ} {exponent other : ℤ}
    (canonical : IsCanonical first exponent)
    (otherCanonical : IsCanonical second other) (firstPositive : 0 < first)
    (secondPositive : 0 < second) :
    IsFine (first * second) (exponent + other) := by
  have nonzero := (Nat.mul_pos firstPositive secondPositive).ne'
  refine ⟨?_, .inl nonzero⟩
  have wide : 52 ≤ (first * second).log2 ∨ exponent + other ≤ -1074 := by
    rw [Nat.le_log2 nonzero]
    rcases canonical.leading with leading | rfl
    · exact .inl (leading.trans (Nat.le_mul_of_pos_right _ secondPositive))
    · rcases otherCanonical.leading with leading | rfl
      · exact .inl (leading.trans (Nat.le_mul_of_pos_left _ firstPositive))
      · exact .inr (by norm_num)
  rw [roundedExponent]
  omega

theorem approximates_exact (mantissa : ℕ) (exponent : ℤ) :
    Approximates (mantissa * 2 ^ exponent) mantissa exponent .exact where
  low := le_rfl
  high := by
    have := two_zpow_pos exponent
    rw [add_mul, one_mul]
    exact lt_add_of_pos_right _ this
  accurate _ := rfl

theorem value_zero (sign : Sign) :
    value? (.ofModel (pack (.zero sign))) = some 0 := by
  cases sign <;> rfl

theorem rounds_mul {x y : Float} {value other : ℚ}
    (isValue : value? x = some value) (isOther : value? y = some other) :
    Rounds (value * other) (x * y) := by
  have product : x * y = .ofModel (pack
      (UnpackedFloat.mul .binary64 x.toModel.unpack y.toModel.unpack)) := rfl
  rw [product]
  cases finite_of_value isValue with
  | zero unpacked =>
      rw [unpacked, zero_mul]
      cases finite_of_value isOther with
      | zero unpacked =>
          rw [unpacked]
          exact rounds_of_value (value_zero _)
      | nonzero unpacked =>
          rw [unpacked]
          exact rounds_of_value (value_zero _)
  | @nonzero sign mantissa exponent positive unpacked canonical =>
      rw [unpacked]
      cases finite_of_value isOther with
      | zero unpacked =>
          rw [unpacked, mul_zero]
          exact rounds_of_value (value_zero _)
      | @nonzero otherSign otherMantissa otherExponent otherPositive
          otherUnpacked otherCanonical =>
          have value : ((mantissa * otherMantissa : ℕ) : ℚ) *
              2 ^ (exponent + otherExponent) = mantissa * 2 ^ exponent *
                (otherMantissa * 2 ^ otherExponent) := by
            rw [zpow_add₀ two_ne_zero]
            push_cast
            ring
          rw [otherUnpacked, ← signed_mul, ← value]
          exact rounds_roundWithAccuracy (sign * otherSign)
            (approximates_exact _ _)
            (isFine_mul canonical otherCanonical positive otherPositive)

/-- A double that has an exact value, or its leading bits if there are too many
of them. -/
inductive IsRounded : ℚ → Float → Prop where
  | value {exact : ℚ} {x : Float} : value? x = some exact → IsRounded exact x
  | leading {sign : Sign} {mantissa : ℕ} {exponent : ℤ} :
      IsFine mantissa exponent →
      IsRounded (signed sign (mantissa * 2 ^ exponent)) (.ofModel (pack
        (roundWithAccuracy .binary64 sign mantissa exponent .exact)))

theorem IsRounded.rounds {exact : ℚ} {x : Float}
    (isRounded : IsRounded exact x) : Rounds exact x := by
  cases isRounded with
  | value isValue => exact rounds_of_value isValue
  | leading isFine =>
      exact rounds_roundWithAccuracy _ (approximates_exact _ _) isFine

/-- A whole significand is rounded after it is made fine enough. -/
theorem isRounded_round (sign : Sign) {mantissa : ℕ} (nonzero : mantissa ≠ 0)
    (exponent : ℤ) :
    IsRounded (signed sign (mantissa * 2 ^ exponent)) (.ofModel (pack
      (UnpackedFloat.round .binary64 sign mantissa exponent))) := by
  rw [UnpackedFloat.round, targetExponent_eq]
  generalize amountEq :
    (exponent - roundedExponent mantissa exponent).toNat = amount
  have same : roundedExponent (mantissa <<< amount) (exponent - amount) =
      roundedExponent mantissa exponent := by
    rw [roundedExponent, roundedExponent, log2_shiftLeft nonzero]
    push_cast
    congr 1
    ring
  have shifted : mantissa <<< amount ≠ 0 := by simp [nonzero]
  have isFine : IsFine (mantissa <<< amount) (exponent - amount) :=
    ⟨by rw [same]; omega, .inl shifted⟩
  have value : ((mantissa <<< amount : ℕ) : ℚ) * 2 ^ (exponent - amount) =
      mantissa * 2 ^ exponent := by
    rw [Nat.shiftLeft_eq, zpow_sub₀ two_ne_zero, zpow_natCast]
    push_cast
    field_simp
  simp only [decreaseExponent, amountEq]
  rw [← value]
  exact .leading isFine

theorem isRounded_normalize (mantissa exponent : ℤ) (zeroSign : Sign) :
    IsRounded (mantissa * 2 ^ exponent) (.ofModel (pack
      (UnpackedFloat.normalize .binary64 mantissa exponent zeroSign))) := by
  unfold UnpackedFloat.normalize
  rcases lt_trichotomy mantissa 0 with negative | rfl | positive
  · obtain ⟨n, rfl⟩ := Int.exists_eq_neg_ofNat negative.le
    have nonzero : n ≠ 0 := by
      rintro rfl
      simp at negative
    rw [Int.compare_eq_lt.mpr negative]
    have isRounded := isRounded_round .negative nonzero exponent
    simpa [signed] using isRounded
  · simpa using IsRounded.value (value_zero zeroSign)
  · obtain ⟨n, rfl⟩ := Int.eq_ofNat_of_zero_le positive.le
    have nonzero : n ≠ 0 := by
      rintro rfl
      simp at positive
    rw [Int.compare_eq_gt.mpr positive]
    have isRounded := isRounded_round .positive nonzero exponent
    simpa [signed] using isRounded

theorem unpack_pack_of_isCanonical (sign : Sign) {mantissa : ℕ} {exponent : ℤ}
    (positive : 0 < mantissa) (isCanonical : IsCanonical mantissa exponent) :
    (pack (.finite sign mantissa exponent positive)).unpack =
      .finite sign mantissa exponent positive := by
  obtain ⟨bits, least, greatest, leading⟩ := isCanonical
  by_cases wide : 2 ^ 52 ≤ mantissa
  · have log2 := (Nat.log2_eq_iff positive.ne').mpr ⟨wide, bits⟩
    rw [unpack_pack_of_log2 sign positive log2 least, if_neg (by omega)]
  · obtain rfl := leading.resolve_left wide
    exact unpack_pack_of_subnormal sign positive (Nat.lt_of_not_le wide)

theorem isRounded_packed (sign : Sign) {mantissa : ℕ} {exponent : ℤ}
    (positive : 0 < mantissa) (isCanonical : IsCanonical mantissa exponent) :
    IsRounded (signed sign (mantissa * 2 ^ exponent))
      (.ofModel (pack (.finite sign mantissa exponent positive))) := by
  refine .value ?_
  change exactValue? (Float.Model.pack _).unpack = _
  rw [unpack_pack_of_isCanonical sign positive isCanonical, exactValue?,
    signed_mul_zpow]

/-- A significand keeps its value when its exponent is decreased. -/
theorem decreaseExponent_value (sign : Sign) (mantissa : ℕ)
    {exponent least : ℤ} (smaller : least ≤ exponent) :
    (sign.apply (decreaseExponent mantissa exponent least).1 : ℚ) * 2 ^ least =
      signed sign (mantissa * 2 ^ exponent) := by
  have power : (2 : ℚ) ^ exponent =
      2 ^ (exponent - least).toNat * 2 ^ least := by
    rw [← zpow_natCast, ← zpow_add₀ two_ne_zero, Int.toNat_sub_of_le smaller,
      sub_add_cancel]
  rw [signed_mul_zpow, decreaseExponent, Nat.shiftLeft_eq, power]
  push_cast
  rw [mul_assoc]

theorem isRounded_add {x y : Float} {value other : ℚ}
    (isValue : value? x = some value) (isOther : value? y = some other) :
    IsRounded (value + other) (x + y) := by
  have sum : x + y = .ofModel (pack
      (UnpackedFloat.add .binary64 x.toModel.unpack y.toModel.unpack)) := rfl
  rw [sum]
  cases finite_of_value isValue with
  | @zero sign unpacked =>
      rw [unpacked]
      cases finite_of_value isOther with
      | @zero otherSign unpacked =>
          rw [unpacked, UnpackedFloat.add, zero_add]
          split <;> exact .value (value_zero _)
      | @nonzero otherSign _ _ positive unpacked canonical =>
          rw [unpacked, zero_add]
          exact isRounded_packed otherSign positive canonical
  | @nonzero sign mantissa exponent positive unpacked canonical =>
      rw [unpacked]
      cases finite_of_value isOther with
      | zero unpacked =>
          rw [unpacked, add_zero]
          exact isRounded_packed sign positive canonical
      | @nonzero otherSign otherMantissa otherExponent _ unpacked _ =>
          rw [unpacked, UnpackedFloat.add,
            ← decreaseExponent_value sign mantissa
              (min_le_left exponent otherExponent),
            ← decreaseExponent_value otherSign otherMantissa
              (min_le_right exponent otherExponent), ← add_mul]
          exact_mod_cast isRounded_normalize _ _ _

theorem rounds_add {x y : Float} {value other : ℚ}
    (isValue : value? x = some value) (isOther : value? y = some other) :
    Rounds (value + other) (x + y) :=
  (isRounded_add isValue isOther).rounds

/-! ### Quotients -/

section Quotient

variable {first second : ℕ} {exponent other : ℤ}

/-- The exponent at which a quotient of significands is computed. -/
def quotientExponent (first : ℕ) (exponent : ℤ) (second : ℕ) (other : ℤ) : ℤ :=
  min (exponent - other)
    (max (first.log2 + exponent - (second.log2 + other) - 53) (-1074))

theorem divCore_eq (first second : ℕ) (exponent other : ℤ) :
    divCore .binary64 first exponent second other =
      let shifted := first <<<
        (exponent - other - quotientExponent first exponent second other).toNat
      (shifted / second, quotientExponent first exponent second other,
        accuracyOfFraction (shifted % second) second) := by
  have least : Format.binary64.minExponent = -1074 := by decide
  have bits : (Format.binary64.mantissaBits : ℤ) = 53 := by decide
  have target : Format.binary64.targetExponent
      (totalExponent first exponent - totalExponent second other) =
        max (first.log2 + exponent - (second.log2 + other) - 53) (-1074) := by
    rw [Format.targetExponent, totalExponent, totalExponent, least, bits]
    congr 1
    ring
  rw [divCore, target]
  rfl

theorem approximates_quotient (positive : 0 < second) (target : ℤ)
    (below : target ≤ exponent - other) :
    let shifted := first <<< (exponent - other - target).toNat
    Approximates (first * 2 ^ exponent / (second * 2 ^ other))
      (shifted / second) target
      (accuracyOfFraction (shifted % second) second) := by
  dsimp only
  have unit := two_zpow_pos target
  have divisor : (0 : ℚ) < second := by exact_mod_cast positive
  have power : (2 : ℚ) ^ exponent =
      2 ^ (exponent - other - target).toNat * 2 ^ target * 2 ^ other := by
    rw [← zpow_natCast, ← zpow_add₀ two_ne_zero, ← zpow_add₀ two_ne_zero,
      Int.toNat_sub_of_le below]
    congr 1
    ring
  have value : (first : ℚ) * 2 ^ exponent / (second * 2 ^ other) =
      (first <<< (exponent - other - target).toNat : ℕ) / second *
        2 ^ target := by
    rw [power, Nat.shiftLeft_eq]
    have := (two_zpow_pos other).ne'
    push_cast
    field_simp
  rw [value]
  generalize first <<< (exponent - other - target).toNat = shifted
  have parts := Nat.div_add_mod shifted second
  have small := Nat.mod_lt shifted positive
  have quotient : (shifted : ℚ) =
      second * (shifted / second : ℕ) + (shifted % second : ℕ) := by
    exact_mod_cast parts.symm
  refine ⟨?_, ?_, fun same => ?_⟩
  · refine mul_le_mul_of_nonneg_right ?_ unit.le
    rw [le_div_iff₀ divisor]
    exact_mod_cast Nat.div_mul_le_self shifted second
  · refine mul_lt_mul_of_pos_right ?_ unit
    rw [div_lt_iff₀ divisor]
    exact_mod_cast (show shifted < (shifted / second + 1) * second by
      rw [add_mul, one_mul, mul_comm]; omega)
  · have whole := mul_right_cancel₀ unit.ne' same
    rw [div_eq_iff divisor.ne'] at whole
    have noRest : shifted % second = 0 := by
      have : shifted = shifted / second * second := by exact_mod_cast whole
      rw [mul_comm] at this
      omega
    rw [accuracyOfFraction, if_pos noRest]

theorem isFine_quotient (firstPositive : 0 < first)
    (secondPositive : 0 < second) :
    IsFine (first <<< (exponent - other -
        quotientExponent first exponent second other).toNat / second)
      (quotientExponent first exponent second other) := by
  generalize isTarget : quotientExponent first exponent second other = target
  rw [quotientExponent] at isTarget
  by_cases least : target ≤ -1074
  · refine ⟨by rw [roundedExponent]; omega, ?_⟩
    by_cases zero : first <<< (exponent - other - target).toNat / second = 0
    · refine .inr ?_
      rw [zero, roundedExponent, Nat.log2_zero]
      omega
    · exact .inl zero
  · have leading : 2 ^ 52 ≤
        first <<< (exponent - other - target).toNat / second := by
      rw [Nat.le_div_iff_mul_le secondPositive, Nat.shiftLeft_eq]
      calc 2 ^ 52 * second
          ≤ 2 ^ 52 * 2 ^ (second.log2 + 1) :=
            Nat.mul_le_mul_left _ Nat.lt_log2_self.le
        _ ≤ 2 ^ first.log2 * 2 ^ (exponent - other - target).toNat := by
            rw [← pow_add, ← pow_add]
            exact Nat.pow_le_pow_right two_pos (by omega)
        _ ≤ first * 2 ^ (exponent - other - target).toNat :=
            Nat.mul_le_mul_right _ (Nat.log2_self_le firstPositive.ne')
    have nonzero := (Nat.two_pow_pos 52).trans_le leading
    have bits := (Nat.le_log2 nonzero.ne').mpr leading
    exact ⟨by rw [roundedExponent]; omega, .inl nonzero.ne'⟩

theorem rounds_quotient (sign : Sign) (firstPositive : 0 < first)
    (secondPositive : 0 < second) :
    let quotient := divCore .binary64 first exponent second other
    Rounds (signed sign (first * 2 ^ exponent / (second * 2 ^ other)))
      (.ofModel (pack (roundWithAccuracy .binary64 sign quotient.1 quotient.2.1
        quotient.2.2))) := by
  rw [divCore_eq]
  exact rounds_roundWithAccuracy sign
    (approximates_quotient secondPositive _ (min_le_left _ _))
    (isFine_quotient firstPositive secondPositive)

end Quotient

theorem rounds_div {x y : Float} {value other : ℚ}
    (isValue : value? x = some value) (isOther : value? y = some other)
    (nonzero : other ≠ 0) : Rounds (value / other) (x / y) := by
  have quotient : x / y = .ofModel (pack
      (UnpackedFloat.div .binary64 x.toModel.unpack y.toModel.unpack)) := rfl
  rw [quotient]
  cases finite_of_value isOther with
  | zero _ => exact absurd rfl nonzero
  | @nonzero otherSign otherMantissa otherExponent otherPositive otherUnpacked
      _ =>
      rw [otherUnpacked]
      cases finite_of_value isValue with
      | @zero sign unpacked =>
          rw [unpacked, zero_div]
          exact rounds_of_value (value_zero _)
      | @nonzero sign mantissa exponent positive unpacked _ =>
          rw [unpacked]
          rw [← signed_div]
          exact rounds_quotient (sign / otherSign) positive otherPositive

/-! ### Whole numbers -/

theorem rounds_neg {exact : ℚ} {x : Float} (rounds : Rounds exact x) :
    Rounds (-exact) (-x) := by
  have opposite :
      (-x).toModel.unpack = (pack x.toModel.unpack.neg).unpack := rfl
  have mirrored : ∀ {value}, value? x = some value →
      value? (-x) = some (-value) := by
    intro value isValue
    rw [value?, opposite]
    cases finite_of_value isValue with
    | @zero sign unpacked =>
        rw [unpacked]
        cases sign <;> rfl
    | @nonzero sign mantissa exponent positive unpacked canonical =>
        rw [unpacked, UnpackedFloat.neg,
          unpack_pack_of_isCanonical (-sign) positive canonical, exactValue?,
          signed_mul_zpow, signed_neg]
  constructor
  · intro r has below
    rcases rounds.atMost (-r) has.neg (le_neg_of_le_neg below) with
      infinite | ⟨value, isValue, high⟩
    · refine .inl ?_
      rw [opposite, infinite]
      exact unpack_packedInfinity .positive
    · exact .inr ⟨-value, mirrored isValue, le_neg_of_le_neg high⟩
  · intro r has above
    rcases rounds.atLeast (-r) has.neg (neg_le_of_neg_le above) with
      infinite | ⟨value, isValue, low⟩
    · refine .inl ?_
      rw [opposite, infinite]
      exact unpack_packedInfinity .negative
    · exact .inr ⟨-value, mirrored isValue, neg_le_of_neg_le low⟩

theorem value_one : value? (Float.ofBits 0x3FF0000000000000) = some 1 := by
  have one : (Float.ofBits 0x3FF0000000000000).toModel.unpack =
      .finite .positive (2 ^ 52) (-52) (Nat.two_pow_pos 52) := rfl
  rw [value?, one, exactValue?, Sign.apply]
  norm_num

theorem rounds_toUInt64 {n : ℕ} (small : n < 2 ^ 53) :
    Rounds n n.toUInt64.toFloat := by
  have fits : n.toUInt64.toNat = n := by
    simp
    omega
  have rounds := (isRounded_normalize n.toUInt64.toNat 0 .positive).rounds
  have value : ((n.toUInt64.toNat : ℤ) : ℚ) * 2 ^ (0 : ℤ) = n := by
    rw [fits, zpow_zero, mul_one, Int.cast_natCast]
  rw [value] at rounds
  exact rounds

theorem rounds_ofScientific {n : ℕ} (nonzero : n ≠ 0) :
    Rounds n (.ofModel (.ofScientific n 0)) := by
  have bits : (2 ^ Format.binary64.exponentBits : ℤ) = 2048 := by decide
  have mantissaBits : Format.binary64.mantissaBits = 53 := by decide
  have same : UnpackedFloat.ofScientific .binary64 n 0 =
      roundWithAccuracy .binary64 .positive (n <<< 53 * 10 ^ 0) (-53 + 0)
        .exact := by
    rw [UnpackedFloat.ofScientific, dif_neg nonzero, if_neg (by decide),
      if_neg (by omega), if_pos (Int.le_refl 0)]
    rfl
  have wide : (n <<< 53 * 10 ^ 0).log2 = n.log2 + 53 := by
    rw [pow_zero, mul_one, log2_shiftLeft nonzero]
  have isFine : IsFine (n <<< 53 * 10 ^ 0) (-53 + 0) :=
    ⟨by rw [roundedExponent, wide]; omega, .inl (by simp [nonzero])⟩
  have value : ((n <<< 53 * 10 ^ 0 : ℕ) : ℚ) * 2 ^ (-53 + 0 : ℤ) = n := by
    rw [Nat.shiftLeft_eq]
    push_cast
    norm_num
    ring
  have rounds := rounds_roundWithAccuracy .positive
    (approximates_exact (n <<< 53 * 10 ^ 0) (-53 + 0)) isFine
  rw [value, ← same] at rounds
  exact rounds

theorem rounds_ofNat (n : ℕ) : Rounds n (Float.ofNat n) := by
  change Rounds n (Float.ofScientific n false 0)
  unfold Float.ofScientific
  by_cases small : n < 2 ^ 53
  · rw [dif_pos ⟨small, by decide⟩]
    have whole := (rounds_toUInt64 small).eq (representable_of_nat small.le)
    have product := rounds_mul whole value_one
    rw [mul_one] at product
    exact product
  · rw [dif_neg fun both => small both.1]
    refine rounds_ofScientific ?_
    rintro rfl
    norm_num at small

/-- A whole number becomes a double by rounding. -/
theorem rounds_ofInt (n : ℤ) : Rounds n (Float.ofInt n) := by
  cases n with
  | ofNat n => exact rounds_ofNat n
  | negSucc n =>
      have rounds := rounds_neg (rounds_ofNat n.succ)
      rw [Int.cast_negSucc]
      exact rounds

/-! ### Results that are finite -/

theorem isFinite_of_value {x : Float} {value : ℚ}
    (isValue : value? x = some value) : x.isFinite = true := by
  change UnpackedFloat.isFinite x.toModel.unpack = true
  cases finite_of_value isValue with
  | zero unpacked => rw [unpacked]; rfl
  | nonzero unpacked => rw [unpacked]; rfl

theorem exists_value_of_isFinite {x : Float} (finite : x.isFinite = true) :
    ∃ value, value? x = some value := by
  change UnpackedFloat.isFinite x.toModel.unpack = true at finite
  rw [value?]
  cases unpacked : x.toModel.unpack with
  | infinity sign => rw [unpacked] at finite; cases finite
  | notANumber => rw [unpacked] at finite; cases finite
  | zero sign => exact ⟨_, rfl⟩
  | finite sign mantissa exponent positive => exact ⟨_, rfl⟩

theorem ofInt_of_value {n : ℤ} {value : ℚ}
    (isValue : value? (Float.ofInt n) = some value) :
    ofInt n = .ok (Float.ofInt n) :=
  ofInt_eq_ok_iff.mpr ⟨isFinite_of_value isValue, rfl⟩

theorem zero_lt_iff {x : Float} {value : ℚ} (isValue : value? x = some value) :
    0 < x ↔ 0 < value := by
  have zero : (0 : Float).toModel.unpack = .zero .positive := rfl
  rw [lt_iff, zero]
  cases finite_of_value isValue with
  | @zero sign unpacked =>
      rw [unpacked]
      simp [UnpackedFloat.lt, UnpackedFloat.compare]
  | @nonzero sign mantissa exponent positive unpacked _ =>
      rw [unpacked]
      have magnitude : (0 : ℚ) < mantissa * 2 ^ exponent :=
        mul_pos (by exact_mod_cast positive) (two_zpow_pos exponent)
      cases sign <;>
        simp [UnpackedFloat.lt, UnpackedFloat.compare, signed, magnitude,
          magnitude.le]

theorem dyadic_floor (value : Dyadic) :
    value.floor = ⌊(value.significand : ℚ) * 2 ^ value.exponent⌋ := by
  obtain ⟨significand, exponent⟩ := value
  unfold Dyadic.floor
  by_cases whole : 0 ≤ exponent
  · obtain ⟨n, rfl⟩ := Int.eq_ofNat_of_zero_le whole
    rw [if_pos whole, zpow_natCast]
    have cast : (significand : ℚ) * 2 ^ n = (significand * 2 ^ n : ℤ) := by
      push_cast
      ring
    rw [cast, Int.floor_intCast]
    rfl
  · obtain ⟨n, rfl⟩ := Int.exists_eq_neg_ofNat (by omega : exponent ≤ 0)
    rw [if_neg whole, zpow_neg, zpow_natCast, ← div_eq_mul_inv]
    have cast : ((2 : ℚ) ^ n) = ((2 ^ n : ℕ) : ℚ) := by push_cast; ring
    have power : Int.pow 2 (-(-(n : ℤ))).toNat = ((2 ^ n : ℕ) : ℤ) := by
      rw [neg_neg, Int.toNat_natCast]
      push_cast
      rfl
    rw [cast, Rat.floor_intCast_div_natCast, power]
    exact Int.fdiv_eq_ediv_of_nonneg _ (Int.natCast_nonneg _)

theorem exists_dyadic {x : Float} {value : ℚ}
    (isValue : value? x = some value) :
    ∃ dyadic, dyadic? x = some dyadic ∧
      value = dyadic.significand * 2 ^ dyadic.exponent := by
  rw [dyadic?]
  rw [value?] at isValue
  cases unpacked : x.toModel.unpack with
  | infinity sign => rw [unpacked] at isValue; cases isValue
  | notANumber => rw [unpacked] at isValue; cases isValue
  | zero sign =>
      rw [unpacked] at isValue
      cases isValue
      exact ⟨_, rfl, by simp⟩
  | finite sign mantissa exponent positive =>
      rw [unpacked] at isValue
      cases isValue
      exact ⟨_, rfl, rfl⟩

theorem floor_of_value {x : Float} {value : ℚ}
    (isValue : value? x = some value) : floor x = .ok ⌊value⌋ := by
  obtain ⟨dyadic, isDyadic, rfl⟩ := exists_dyadic isValue
  rw [floor, isDyadic, ← dyadic_floor]

/-- Dropping the fraction brings no number to zero from the other side. -/
theorem truncate_le_floor_or_nonpos (value : Dyadic) :
    value.truncate = value.floor ∨ value.truncate ≤ 0 := by
  unfold Dyadic.truncate Dyadic.floor
  split
  · exact .inl rfl
  · have unit : (0 : ℤ) ≤ Int.pow 2 (-value.exponent).toNat :=
      Int.pow_nonneg (by decide)
    by_cases nonneg : 0 ≤ value.significand
    · exact .inl (by rw [Int.tdiv_eq_ediv_of_nonneg nonneg,
        Int.fdiv_eq_ediv_of_nonneg _ unit])
    · refine .inr ?_
      rw [← neg_neg value.significand, Int.neg_tdiv]
      exact neg_nonpos.mpr (Int.tdiv_nonneg (by omega) unit)

/-- A double without its fraction is within the range of doubles. -/
theorem truncate_lt {x : Float} {n : ℤ} (finite : x.isFinite = true)
    (ok : truncate x = .ok n) : n < 2 ^ 1024 := by
  obtain ⟨value, isValue⟩ := exists_value_of_isFinite finite
  obtain ⟨dyadic, isDyadic, same⟩ := exists_dyadic isValue
  rw [truncate, isDyadic] at ok
  cases ok
  have inRange : ⌊value⌋ < 2 ^ 1024 := by
    rw [Int.floor_lt, Int.cast_pow, Int.cast_ofNat]
    exact (le_abs_self _).trans_lt (representable_of_value isValue).bounded
  rw [same, ← dyadic_floor] at inRange
  rcases truncate_le_floor_or_nonpos dyadic with whole | nonpos
  · rwa [whole]
  · exact nonpos.trans_lt (by positivity)

theorem truncate_nonneg {x : Float} {n : ℤ} (finite : x.isFinite = true)
    (positive : 0 < x) (ok : truncate x = .ok n) : 0 ≤ n := by
  obtain ⟨value, isValue⟩ := exists_value_of_isFinite finite
  obtain ⟨dyadic, isDyadic, same⟩ := exists_dyadic isValue
  rw [truncate, isDyadic] at ok
  cases ok
  have above := (zero_lt_iff isValue).mp positive
  rw [same] at above
  have nonneg : 0 ≤ dyadic.significand := by
    exact_mod_cast (pos_of_mul_pos_left above (two_zpow_pos _).le).le
  have unit (power : ℕ) : (0 : ℤ) ≤ Int.pow 2 power :=
    Int.pow_nonneg (by decide)
  unfold Dyadic.truncate
  split
  · exact mul_nonneg nonneg (unit _)
  · exact Int.tdiv_nonneg nonneg (unit _)

/-- The quotient of whole numbers is found if it is not beyond the range. -/
theorem quotient_ok {numerator denominator : ℕ} (positive : 0 < numerator)
    (divisor : 0 < denominator) {bound : ℚ} (has : Representable bound)
    (below : (numerator : ℚ) / denominator ≤ bound) :
    ∃ x, quotient numerator denominator = .ok x := by
  have rounds := @rounds_quotient numerator denominator 0 0 .positive positive
    divisor
  simp only [signed, zpow_zero, mul_one] at rounds
  obtain ⟨value, isValue, _⟩ := rounds.between representable_zero has
    (by positivity) below
  change ∃ x, (if (Float.ofModel (pack (UnpackedFloat.div .binary64
    (if positive : 0 < numerator then
      .finite .positive numerator 0 positive
    else
      .zero .positive)
    (if positive : 0 < denominator then
      .finite .positive denominator 0 positive
    else
      .zero .positive)))).isFinite then Except.ok _ else _) = Except.ok x
  rw [dif_pos positive, dif_pos divisor]
  exact ⟨_, if_pos (isFinite_of_value isValue)⟩

/-! ### Positive infinity -/

theorem unpack_infinity :
    (pack (.infinity .positive)).unpack = .infinity .positive :=
  unpack_packedInfinity .positive

theorem atLeast_add {x y : Float} {bound other : ℚ} (low : AtLeast bound x)
    (otherLow : AtLeast other y) (has : Representable (bound + other)) :
    AtLeast (bound + other) (x + y) := by
  have sum : (x + y).toModel.unpack = (pack (UnpackedFloat.add .binary64
      x.toModel.unpack y.toModel.unpack)).unpack := rfl
  rcases low with infinite | ⟨value, isValue, low⟩
  · refine .inl ?_
    rw [sum, infinite]
    rcases otherLow with infinite | ⟨value, isValue, _⟩
    · rw [infinite]
      exact unpack_infinity
    · cases finite_of_value isValue with
      | zero unpacked => rw [unpacked]; exact unpack_infinity
      | nonzero unpacked => rw [unpacked]; exact unpack_infinity
  · rcases otherLow with infinite | ⟨value, isOther, otherLow⟩
    · refine .inl ?_
      rw [sum, infinite]
      cases finite_of_value isValue with
      | zero unpacked => rw [unpacked]; exact unpack_infinity
      | nonzero unpacked => rw [unpacked]; exact unpack_infinity
    · exact (rounds_add isValue isOther).atLeast _ has
        (add_le_add low otherLow)

theorem value_div_infinity {x y : Float} {value : ℚ}
    (isValue : value? x = some value)
    (infinite : y.toModel.unpack = .infinity .positive) :
    value? (x / y) = some 0 := by
  have quotient : x / y = .ofModel (pack
      (UnpackedFloat.div .binary64 x.toModel.unpack y.toModel.unpack)) := rfl
  rw [quotient, infinite]
  cases finite_of_value isValue with
  | zero unpacked => rw [unpacked]; exact value_zero _
  | nonzero unpacked => rw [unpacked]; exact value_zero _

end PaneLayout.Binary64
