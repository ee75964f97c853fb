import PaneLayout.Number.Decimal
import PaneLayout.Proofs.Number.Shortest
import PaneLayout.Proofs.Ratio.Entry

/-!
# Numerals of doubles

However a shortest decimal is laid out, reading its text gives the number back.
So the text of a finite double determines the double.
-/

namespace PaneLayout

/-! ### ASCII digits -/

/-- The values of ASCII digits. -/
def asciiValues (digits : List Char) : List Nat :=
  digits.map fun c => c.toNat - '0'.toNat

theorem mapM_digitValue? {digits : List Char}
    (areDigits : ∀ c ∈ digits, c.isDigit = true) :
    digits.mapM digitValue? = some (asciiValues digits) := by
  induction digits with
  | nil => rfl
  | cons first digits induction =>
      obtain ⟨isDigit, areDigits⟩ := List.forall_mem_cons.mp areDigits
      rw [List.mapM_cons, digitValue?_of_isDigit isDigit, induction areDigits]
      rfl

theorem valueOfDigits_ascii (digits : List Char) :
    valueOfDigits (asciiValues digits) = Nat.ofDigitChars 10 digits 0 := by
  rw [valueOfDigits, asciiValues, List.foldl_map, Nat.ofDigitChars_eq_foldl]

theorem asciiValues_isEmpty {digits : List Char} (nonempty : digits ≠ []) :
    (asciiValues digits).isEmpty = false := by
  simp [asciiValues, nonempty]

theorem toString_digits {n : ℕ} {c : Char} (member : c ∈ (toString n).toList) :
    c.isDigit = true := by
  rw [Nat.toString_eq_repr, Nat.toList_repr] at member
  exact Nat.isDigit_of_mem_toDigits (by decide) (by decide) member

theorem ofDigitChars_toString (n : ℕ) :
    Nat.ofDigitChars 10 (toString n).toList 0 = n := by
  rw [Nat.toString_eq_repr, Nat.toList_repr]
  exact Nat.ofDigitChars_ten_toDigits

theorem toString_ne_nil (n : ℕ) : (toString n).toList ≠ [] := by
  rw [Nat.toString_eq_repr, Nat.toList_repr]
  exact Nat.toDigits_ne_nil

namespace Shortest

/-! ### Numerals -/

/-- What may follow the first digits: a point and more digits. -/
inductive IsFraction : List Char → List Char → Prop where
  | none : IsFraction [] []
  | point (fraction : List Char) : IsFraction ('.' :: fraction) fraction

/-- What may come last: a power of ten. -/
inductive IsPower : List Char → ℤ → Prop where
  | none : IsPower [] 0
  | power (exponent : ℤ) :
      IsPower ('e' :: (exponentText exponent).toList) exponent

/-- A text spells a number as digits, with a fraction or a power or both. -/
inductive Spells : List Char → ℚ → Prop where
  | numeral {whole fraction point power : List Char} {exponent : ℤ} :
      whole ≠ [] → (∀ c ∈ whole ++ fraction, c.isDigit = true) →
      IsFraction point fraction → IsPower power exponent →
      point ++ power ≠ [] →
      Spells (whole ++ (point ++ power))
        (Nat.ofDigitChars 10 (whole ++ fraction) 0 *
          10 ^ (exponent - fraction.length))

theorem exponentText_digits (exponent : ℤ) :
    ∃ sign digits, (sign = '-' ∧ exponent < 0 ∨ sign = '+' ∧ 0 ≤ exponent) ∧
      (exponentText exponent).toList = sign :: digits ∧ digits ≠ [] ∧
      (∀ c ∈ digits, c.isDigit = true) ∧
      Nat.ofDigitChars 10 digits 0 = exponent.natAbs := by
  have padded : ∃ digits,
      (if (toString exponent.natAbs).length < 2 then
        "0" ++ toString exponent.natAbs
      else toString exponent.natAbs).toList = digits ∧ digits ≠ [] ∧
      (∀ c ∈ digits, c.isDigit = true) ∧
      Nat.ofDigitChars 10 digits 0 = exponent.natAbs := by
    split
    · refine ⟨_, String.toList_append, by simp, ?_, ?_⟩
      · intro c member
        rcases List.mem_append.mp member with zero | digit
        · rw [List.mem_singleton.mp zero]
          decide
        · exact toString_digits digit
      · rw [Nat.ofDigitChars_append]
        exact ofDigitChars_toString _
    · exact ⟨_, rfl, toString_ne_nil _, fun _ => toString_digits,
        ofDigitChars_toString _⟩
  obtain ⟨digits, isText, nonempty, areDigits, value⟩ := padded
  by_cases negative : exponent < 0
  · refine ⟨'-', digits, .inl ⟨rfl, negative⟩, ?_, nonempty, areDigits, value⟩
    rw [exponentText, if_pos negative, String.toList_append, isText]
    rfl
  · refine ⟨'+', digits, .inr ⟨rfl, not_lt.mp negative⟩, ?_, nonempty,
      areDigits, value⟩
    rw [exponentText, if_neg negative, String.toList_append, isText]
    rfl

theorem readExponent_exponentText (exponent : ℤ) :
    PaneLayout.Decimal.readExponent (exponentText exponent).toList =
      .ok exponent := by
  obtain ⟨sign, digits, isSign, isText, nonempty, areDigits, value⟩ :=
    exponentText_digits exponent
  have read : PaneLayout.Decimal.readExponent.digitsOf digits =
      .ok exponent.natAbs := by
    rw [← value, ← valueOfDigits_ascii, PaneLayout.Decimal.readExponent.digitsOf,
      mapM_digitValue? areDigits]
    obtain ⟨first, rest, rfl⟩ := List.exists_cons_of_ne_nil nonempty
    rfl
  rw [isText]
  rcases isSign with ⟨rfl, negative⟩ | ⟨rfl, nonneg⟩
  · rw [PaneLayout.Decimal.readExponent, read]
    change Except.ok (-(exponent.natAbs : ℤ)) = _
    congr 1
    omega
  · rw [PaneLayout.Decimal.readExponent, read]
    change Except.ok ((exponent.natAbs : ℤ)) = _
    congr 1
    omega

/-- A numeral is read as the number that it spells. -/
theorem Spells.read {text : List Char} {value : ℚ}
    (spells : Spells text value) :
    ∃ decimal, PaneLayout.Decimal.read text = .ok decimal ∧
      value = decimal.significand * 10 ^ decimal.exponent := by
  cases spells with
  | @numeral whole fraction point power exponent nonempty areDigits isFraction
      isPower _ =>
  obtain ⟨wholeDigits, fractionDigits⟩ := List.forall_mem_append.mp areDigits
  have powerStops : ∀ c ∈ power.head?, isDecimalDigit c = false := by
    cases isPower with
    | none => simp
    | power exponent =>
        rintro c ⟨⟩
        decide
  have pointStops : ∀ c ∈ (point ++ power).head?, isDecimalDigit c = false := by
    cases isFraction with
    | none => exact powerStops
    | point fraction =>
        rintro c ⟨⟩
        decide
  have runs := RatioEntry.takeWhile_run
    (fun c member => isDecimalDigit_of_isDigit (wholeDigits c member)) pointStops
  have fractionRuns := RatioEntry.takeWhile_run
    (fun c member => isDecimalDigit_of_isDigit (fractionDigits c member))
    powerStops
  have read := mapM_digitValue? areDigits
  have someDigits := asciiValues_isEmpty
    (List.append_ne_nil_of_left_ne_nil nonempty fraction)
  refine ⟨⟨valueOfDigits (asciiValues (whole ++ fraction)),
    exponent - fraction.length⟩, ?_, by rw [valueOfDigits_ascii]⟩
  rw [PaneLayout.Decimal.read]
  dsimp only
  rw [runs.1, runs.2]
  cases isFraction with
  | none =>
    simp only [List.append_nil] at read someDigits
    cases isPower with
    | none =>
      simp only [List.append_nil]
      rw [read]
      dsimp only
      rw [someDigits]
      rfl
    | power exponent =>
      simp [read, someDigits, readExponent_exponentText]
  | point fraction =>
    simp only [List.cons_append]
    rw [fractionRuns.1, fractionRuns.2, read]
    dsimp only
    rw [someDigits]
    cases isPower with
    | none => rfl
    | power exponent =>
      dsimp only
      rw [readExponent_exponentText]
      rfl

/-- A text spells one number only. -/
theorem Spells.unique {text : List Char} {value other : ℚ}
    (spells : Spells text value) (otherSpells : Spells text other) :
    value = other := by
  obtain ⟨decimal, read, isValue⟩ := spells.read
  obtain ⟨otherDecimal, otherRead, isOther⟩ := otherSpells.read
  rw [read] at otherRead
  cases otherRead
  rw [isValue, isOther]

/-! ### The forms of a layout -/

theorem isDigit_zeros (zeros : ℕ) :
    ∀ c ∈ List.replicate zeros '0', c.isDigit = true := by
  intro c member
  rw [List.eq_of_mem_replicate member]
  decide

section Forms

variable {digits : List Char} (areDigits : ∀ c ∈ digits, c.isDigit = true)
include areDigits

theorem spells_below_one (zeros : ℕ) :
    Spells ('0' :: '.' :: (List.replicate zeros '0' ++ digits))
      (Nat.ofDigitChars 10 digits 0 *
        10 ^ (-(zeros + digits.length : ℤ))) := by
  have value : Nat.ofDigitChars 10
      (['0'] ++ (List.replicate zeros '0' ++ digits)) 0 =
        Nat.ofDigitChars 10 digits 0 := by
    simp [Nat.ofDigitChars_append, Nat.ofDigitChars_cons,
      Nat.ofDigitChars_replicate_zero]
  have spells := Spells.numeral (List.cons_ne_nil '0' [])
    (List.forall_mem_append.mpr ⟨isDigit_zeros 1, List.forall_mem_append.mpr
      ⟨isDigit_zeros zeros, areDigits⟩⟩)
    (.point (List.replicate zeros '0' ++ digits)) .none (by simp)
  rw [value, zero_sub, List.length_append, List.length_replicate,
    List.append_nil] at spells
  exact_mod_cast spells

theorem spells_whole (nonempty : digits ≠ []) (zeros : ℕ) :
    Spells (digits ++ List.replicate zeros '0' ++ ['.', '0'])
      (Nat.ofDigitChars 10 digits 0 * 10 ^ (zeros : ℤ)) := by
  have value : Nat.ofDigitChars 10
      (digits ++ List.replicate zeros '0' ++ ['0']) 0 =
        10 * (10 ^ zeros * Nat.ofDigitChars 10 digits 0) := by
    simp [Nat.ofDigitChars_append, Nat.ofDigitChars_cons,
      Nat.ofDigitChars_replicate_zero]
  have spells := Spells.numeral
    (List.append_ne_nil_of_left_ne_nil nonempty (List.replicate zeros '0'))
    (List.forall_mem_append.mpr ⟨List.forall_mem_append.mpr
      ⟨areDigits, isDigit_zeros zeros⟩, isDigit_zeros 1⟩)
    (.point ['0']) .none (by simp)
  have same : ((10 * (10 ^ zeros * Nat.ofDigitChars 10 digits 0) : ℕ) : ℚ) *
      10 ^ (0 - (['0'].length : ℤ)) =
        Nat.ofDigitChars 10 digits 0 * 10 ^ (zeros : ℤ) := by
    rw [zero_sub, zpow_neg, List.length_singleton, Nat.cast_one, zpow_one,
      zpow_natCast]
    push_cast
    field_simp
  rw [← same, ← value]
  exact spells

theorem spells_split {places : ℕ} (positive : 0 < places)
    (inside : places < digits.length) :
    Spells (digits.take places ++ '.' :: digits.drop places)
      (Nat.ofDigitChars 10 digits 0 *
        10 ^ (places - digits.length : ℤ)) := by
  have nonempty : digits.take places ≠ [] := by
    rw [Ne, List.take_eq_nil_iff, ← List.length_eq_zero_iff]
    omega
  have whole := List.take_append_drop places digits
  have spells := Spells.numeral nonempty (by rwa [whole])
    (.point (digits.drop places)) .none (by simp)
  rw [whole, List.append_nil, zero_sub, List.length_drop,
    Nat.cast_sub inside.le, neg_sub] at spells
  exact spells

/-- The point stands inside the digits, or after them and some zeros. -/
theorem spells_above_one (nonempty : digits ≠ []) {places : ℕ}
    (positive : 0 < places) :
    let padded := digits ++ List.replicate (places - digits.length) '0'
    let fraction := padded.drop places
    Spells (padded.take places ++
        '.' :: (if fraction.isEmpty then ['0'] else fraction))
      (Nat.ofDigitChars 10 digits 0 *
        10 ^ (places - digits.length : ℤ)) := by
  dsimp only
  by_cases inside : places < digits.length
  · have fraction : (digits.drop places).isEmpty = false := by
      simp [inside]
    rw [Nat.sub_eq_zero_of_le inside.le, List.replicate_zero, List.append_nil,
      fraction]
    exact spells_split areDigits positive inside
  · have spells := spells_whole areDigits nonempty (places - digits.length)
    have power : ((places - digits.length : ℕ) : ℤ) =
        places - digits.length := by
      omega
    have length : (digits ++
        List.replicate (places - digits.length) '0').length = places := by
      rw [List.length_append, List.length_replicate]
      omega
    rw [power] at spells
    rw [List.take_of_length_le length.le, List.drop_of_length_le length.le]
    exact spells

theorem spells_power (nonempty : digits ≠ []) (exponent : ℤ)
    (point : List Char)
    (isPoint : digits.drop 1 ≠ [] ∧ point = '.' :: digits.drop 1 ∨
      digits.drop 1 = [] ∧ (point = [] ∨ point = ['.', '0'])) :
    Spells (digits.take 1 ++ (point ++ 'e' :: (exponentText exponent).toList))
      (Nat.ofDigitChars 10 digits 0 *
        10 ^ (exponent + 1 - digits.length)) := by
  have first : digits.take 1 ≠ [] := by
    rw [Ne, List.take_eq_nil_iff]
    simp [nonempty]
  have whole := List.take_append_drop 1 digits
  have some : 0 < digits.length := List.length_pos_iff.mpr nonempty
  rcases isPoint with ⟨_, rfl⟩ | ⟨single, isPoint⟩
  · have spells := Spells.numeral first (by rwa [whole])
      (.point (digits.drop 1)) (.power exponent) (by simp)
    rw [whole, List.length_drop, Nat.cast_sub some, Nat.cast_one,
      sub_sub_eq_add_sub] at spells
    exact spells
  · rw [single, List.append_nil] at whole
    have one : digits.length = 1 := by
      rw [← whole, List.length_take]
      omega
    rw [whole, one, Nat.cast_one, add_sub_cancel_right]
    rcases isPoint with rfl | rfl
    · have spells := Spells.numeral nonempty (by rwa [List.append_nil])
        .none (.power exponent) (by simp)
      rw [List.append_nil, List.length_nil, Nat.cast_zero, sub_zero] at spells
      exact spells
    · have spells := Spells.numeral nonempty
        (List.forall_mem_append.mpr ⟨areDigits, isDigit_zeros 1⟩)
        (.point ['0']) (.power exponent) (by simp)
      have same : (Nat.ofDigitChars 10 (digits ++ ['0']) 0 : ℚ) *
          10 ^ (exponent - (['0'].length : ℤ)) =
            Nat.ofDigitChars 10 digits 0 * 10 ^ exponent := by
        rw [Nat.ofDigitChars_append, List.length_singleton, Nat.cast_one,
          zpow_sub_one₀ ten_ne_zero]
        simp [Nat.ofDigitChars_cons]
        field_simp
      rw [← same]
      exact spells

end Forms

/-- Every layout of a decimal spells its number. -/
theorem spells_positive (layout : Layout) (decimal : Decimal) :
    Spells (layout.positive decimal).toList decimal.value := by
  have nonempty := toString_ne_nil decimal.digits
  have areDigits : ∀ c ∈ (toString decimal.digits).toList, c.isDigit = true :=
    fun _ => toString_digits
  have value := ofDigitChars_toString decimal.digits
  have some := List.length_pos_iff.mpr nonempty
  unfold Layout.positive
  dsimp only
  rw [Decimal.value]
  generalize (toString decimal.digits).toList = digits at *
  rw [← value]
  split
  · split
    · next below =>
      have spells := spells_below_one areDigits
        (-(decimal.power + digits.length - 1) - 1).toNat
      have power : -(((-(decimal.power + digits.length - 1) - 1).toNat : ℤ) +
          digits.length) = decimal.power := by
        omega
      rw [power] at spells
      rw [String.toList_append, String.toList_ofList, String.toList_ofList]
      exact spells
    · next above =>
      have spells := spells_above_one areDigits nonempty
        (Nat.succ_pos (decimal.power + digits.length - 1).toNat)
      have power : (((decimal.power + digits.length - 1).toNat + 1 : ℕ) : ℤ) -
          digits.length = decimal.power := by
        omega
      rw [power] at spells
      simp only [String.toList_append, String.toList_ofList,
        apply_ite String.toList, List.append_assoc]
      exact spells
  · have spells := spells_power areDigits nonempty
      (decimal.power + digits.length - 1)
    have power : decimal.power + digits.length - 1 + 1 - digits.length =
        decimal.power := by
      ring
    rw [power] at spells
    by_cases single : digits.drop 1 = []
    · rw [single]
      cases layout.padsSingleDigit with
      | true => simpa using spells _ (.inr ⟨single, .inr rfl⟩)
      | false => simpa using spells _ (.inr ⟨single, .inl rfl⟩)
    · have more : digits.tail ≠ [] := by
        simpa using single
      simpa [more] using spells _ (.inl ⟨single, rfl⟩)

/-! ### Texts of doubles -/

open Float.Model Float.Model.UnpackedFloat Binary64

/-- What the text of a finite double spells after its sign. -/
inductive Magnitude (x : Float) : Sign → ℚ → Prop where
  | zero {sign : Sign} : x.toModel.unpack = .zero sign → Magnitude x sign 0
  | finite {sign : Sign} {mantissa : ℕ} {exponent : ℤ}
      {positive : 0 < mantissa} :
      x.toModel.unpack = .finite sign mantissa exponent positive →
      Magnitude x sign (ofDyadic mantissa exponent).value

theorem eq_of_unpack {x y : Float}
    (same : x.toModel.unpack = y.toModel.unpack) : x = y := by
  obtain ⟨⟨bits, valid⟩⟩ := x
  obtain ⟨⟨otherBits, otherValid⟩⟩ := y
  have sameBits := (unpack_inj_of_valid valid otherValid).mp same
  cases UInt64.toBitVec_inj.mp sameBits
  rfl

theorem Magnitude.unique {x y : Float} {sign : Sign} {value : ℚ}
    (magnitude : Magnitude x sign value)
    (otherMagnitude : Magnitude y sign value) : x = y := by
  refine eq_of_unpack ?_
  generalize isValue : value = other at otherMagnitude
  cases magnitude with
  | zero unpacked =>
      cases otherMagnitude with
      | zero otherUnpacked => rw [unpacked, otherUnpacked]
      | @finite _ _ otherPositive otherUnpacked =>
          have above := ofDyadic_pos (isCanonical_unpack otherUnpacked)
            otherPositive
          exact absurd isValue above.ne
  | @finite mantissa exponent positive unpacked =>
      cases otherMagnitude with
      | zero otherUnpacked =>
          have above := ofDyadic_pos (isCanonical_unpack unpacked) positive
          exact absurd isValue above.ne'
      | @finite _ _ otherPositive otherUnpacked =>
          obtain ⟨rfl, rfl⟩ := ofDyadic_injective (isCanonical_unpack unpacked)
            positive (isCanonical_unpack otherUnpacked) otherPositive isValue
          rw [unpacked, otherUnpacked]

/-- The text of a finite double: a sign if it is negative, and a numeral. -/
theorem spells_text (layout : Layout) {x : Float} (finite : x.isFinite = true) :
    ∃ sign value numeral, Magnitude x sign value ∧ Spells numeral value ∧
      (sign = .positive ∧ (layout.text x).toList = numeral ∨
        sign = .negative ∧ (layout.text x).toList = '-' :: numeral) := by
  have zeroSpells : Spells ['0', '.', '0'] 0 := by
    have spells := spells_below_one (isDigit_zeros 1) 0
    simpa [Nat.ofDigitChars_cons] using spells
  change UnpackedFloat.isFinite x.toModel.unpack = true at finite
  unfold Layout.text
  cases unpacked : x.toModel.unpack with
  | notANumber => rw [unpacked] at finite; cases finite
  | infinity sign => rw [unpacked] at finite; cases finite
  | zero sign =>
      cases sign with
      | positive =>
          exact ⟨_, _, _, .zero unpacked, zeroSpells,
            .inl ⟨rfl, String.toList_ofList⟩⟩
      | negative =>
          exact ⟨_, _, _, .zero unpacked, zeroSpells,
            .inr ⟨rfl, String.toList_ofList⟩⟩
  | finite sign mantissa exponent positive =>
      have spells := spells_positive layout (ofDyadic mantissa exponent)
      cases sign with
      | positive => exact ⟨_, _, _, .finite unpacked, spells, .inl ⟨rfl, rfl⟩⟩
      | negative =>
          refine ⟨_, _, _, .finite unpacked, spells, .inr ⟨rfl, ?_⟩⟩
          simp

theorem Spells.head_isDigit {text : List Char} {value : ℚ}
    (spells : Spells text value) : ∃ c ∈ text.head?, c.isDigit = true := by
  cases spells with
  | numeral nonempty areDigits _ _ _ =>
      obtain ⟨first, rest, rfl⟩ := List.exists_cons_of_ne_nil nonempty
      exact ⟨first, rfl, areDigits first (by simp)⟩

/-! ### Characters of numerals -/

/-- The characters that numbers are written with. -/
def isNumeralChar (c : Char) : Bool :=
  c.isDigit || c == '.' || c == 'e' || c == '+' || c == '-'

theorem isNumeralChar_of_isDigit {c : Char} (isDigit : c.isDigit = true) :
    isNumeralChar c = true := by
  simp [isNumeralChar, isDigit]

/-- A numeral is made of numeral characters, among them a point or the letter of
a power. -/
theorem Spells.characters {text : List Char} {value : ℚ}
    (spells : Spells text value) :
    (∀ c ∈ text, isNumeralChar c = true) ∧ ('.' ∈ text ∨ 'e' ∈ text) := by
  cases spells with
  | @numeral whole fraction point power exponent _ areDigits isFraction isPower
      some =>
  obtain ⟨wholeDigits, fractionDigits⟩ := List.forall_mem_append.mp areDigits
  have ofFraction : (∀ c ∈ point, isNumeralChar c = true) ∧
      (point ≠ [] → '.' ∈ point) := by
    cases isFraction with
    | none => simp
    | point =>
        refine ⟨List.forall_mem_cons.mpr ⟨by decide, fun c member =>
          isNumeralChar_of_isDigit (fractionDigits c member)⟩, by simp⟩
  have ofPower : (∀ c ∈ power, isNumeralChar c = true) ∧
      (power ≠ [] → 'e' ∈ power) := by
    cases isPower with
    | none => simp
    | power =>
        obtain ⟨sign, digits, isSign, isText, _, areDigits, _⟩ :=
          exponentText_digits exponent
        have signChar : isNumeralChar sign = true := by
          rcases isSign with ⟨rfl, _⟩ | ⟨rfl, _⟩ <;> decide
        rw [isText]
        refine ⟨List.forall_mem_cons.mpr ⟨by decide, List.forall_mem_cons.mpr
          ⟨signChar, fun c member =>
            isNumeralChar_of_isDigit (areDigits c member)⟩⟩, by simp⟩
  constructor
  · exact List.forall_mem_append.mpr ⟨fun c member =>
      isNumeralChar_of_isDigit (wholeDigits c member),
      List.forall_mem_append.mpr ⟨ofFraction.1, ofPower.1⟩⟩
  · by_cases noPoint : point = []
    · have hasPower : power ≠ [] := by
        simpa [noPoint] using some
      exact .inr (List.mem_append_right _
        (List.mem_append_right _ (ofPower.2 hasPower)))
    · exact .inl (List.mem_append_right _
        (List.mem_append_left _ (ofFraction.2 noPoint)))

theorem text_characters (layout : Layout) {x : Float}
    (finite : x.isFinite = true) :
    (∀ c ∈ (layout.text x).toList, isNumeralChar c = true) ∧
      ('.' ∈ (layout.text x).toList ∨ 'e' ∈ (layout.text x).toList) := by
  obtain ⟨sign, value, numeral, _, spells, isText⟩ := spells_text layout finite
  obtain ⟨characters, marked⟩ := spells.characters
  rcases isText with ⟨_, isText⟩ | ⟨_, isText⟩
  · rw [isText]
    exact ⟨characters, marked⟩
  · rw [isText]
    exact ⟨List.forall_mem_cons.mpr ⟨by decide, characters⟩,
      marked.imp (List.mem_cons_of_mem _) (List.mem_cons_of_mem _)⟩

/-- The text of a finite double determines it. -/
theorem text_injective (layout : Layout) {x y : Float}
    (finite : x.isFinite = true) (otherFinite : y.isFinite = true)
    (same : layout.text x = layout.text y) : x = y := by
  obtain ⟨sign, value, numeral, magnitude, spells, isText⟩ :=
    spells_text layout finite
  obtain ⟨otherSign, otherValue, otherNumeral, otherMagnitude, otherSpells,
    isOtherText⟩ := spells_text layout otherFinite
  have noSign {numeral : List Char} {value : ℚ} (spells : Spells numeral value)
      (rest : List Char) : numeral ≠ '-' :: rest := by
    rintro rfl
    obtain ⟨c, ⟨⟩, isDigit⟩ := spells.head_isDigit
    cases isDigit
  rw [same] at isText
  rcases isText with ⟨rfl, isText⟩ | ⟨rfl, isText⟩ <;>
    rcases isOtherText with ⟨rfl, isOtherText⟩ | ⟨rfl, isOtherText⟩
  · rw [isText] at isOtherText
    rw [isOtherText] at spells
    rw [spells.unique otherSpells] at magnitude
    exact magnitude.unique otherMagnitude
  · exact absurd (isText.symm.trans isOtherText) (noSign spells _)
  · exact absurd (isOtherText.symm.trans isText) (noSign otherSpells _)
  · rw [isText] at isOtherText
    cases isOtherText
    rw [spells.unique otherSpells] at magnitude
    exact magnitude.unique otherMagnitude

end Shortest

end PaneLayout
