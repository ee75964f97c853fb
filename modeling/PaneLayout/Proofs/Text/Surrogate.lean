import Mathlib.Data.List.Chain
import PaneLayout.Text.Surrogate

/-!
# Pairs of surrogates

A character is known from its code point.  Escapes of code units are read in
pairs where they can be, so two surrogates in a row may be taken for another
character.
-/

namespace PaneLayout

theorem char_bounds (c : Char) :
    c.toNat < 0x110000 ∧ (c.toNat < 0xD800 ∨ 0xE000 ≤ c.toNat) := by
  rcases c.valid with below | ⟨above, small⟩
  · exact ⟨below.trans (by decide), .inl below⟩
  · exact ⟨small, .inr above⟩

theorem toNat_injective {c d : Char} (same : c.toNat = d.toNat) : c = d := by
  rw [← c.ofNat_toNat, same, d.ofNat_toNat]

/-! ### Code points -/

theorem isSurrogate_iff {c : Char} :
    isSurrogate c = true ↔ 0x10D800 ≤ c.toNat ∧ c.toNat < 0x10E000 := by
  rw [isSurrogate, decide_eq_true_iff, firstStandIn]

theorem codePoint_eq {c : Char} (plain : isSurrogate c = false) :
    codePoint c = c.toNat := by
  rw [codePoint, plain]
  rfl

theorem codePoint_surrogate {c : Char} (stands : isSurrogate c = true) :
    codePoint c = c.toNat - 0x10D800 + 0xD800 := by
  rw [codePoint, stands]
  rfl

/-- Exactly the surrogates have the code points between the two ranges of
characters. -/
theorem isSurrogate_iff_codePoint {c : Char} :
    isSurrogate c = true ↔ 0xD800 ≤ codePoint c ∧ codePoint c < 0xE000 := by
  obtain ⟨limit, notBetween⟩ := char_bounds c
  cases stands : isSurrogate c with
  | false =>
      rw [codePoint_eq stands]
      exact ⟨nofun, fun between => by omega⟩
  | true =>
      have least := isSurrogate_iff.mp stands
      rw [codePoint_surrogate stands]
      exact ⟨fun _ => by omega, fun _ => rfl⟩

theorem codePoint_lt (c : Char) : codePoint c < 0x110000 := by
  have limit := (char_bounds c).1
  cases stands : isSurrogate c with
  | false => rwa [codePoint_eq stands]
  | true =>
      rw [codePoint_surrogate stands]
      omega

theorem codePoint_injective {c d : Char} (same : codePoint c = codePoint d) :
    c = d := by
  have kinds : isSurrogate c = isSurrogate d := by
    rw [Bool.eq_iff_iff, isSurrogate_iff_codePoint, isSurrogate_iff_codePoint,
      same]
  refine toNat_injective ?_
  cases stands : isSurrogate c with
  | false =>
      rwa [codePoint_eq stands, codePoint_eq (kinds.symm.trans stands)] at same
  | true =>
      have other := kinds.symm.trans stands
      have least := isSurrogate_iff.mp stands
      have otherLeast := isSurrogate_iff.mp other
      rw [codePoint_surrogate stands, codePoint_surrogate other] at same
      omega

/-- Every character is found under the code point that it is or stands for. -/
theorem ofCodePoint?_codePoint (c : Char) :
    ofCodePoint? (codePoint c) = some c := by
  cases stands : isSurrogate c with
  | false =>
      rw [codePoint_eq stands, ofCodePoint?,
        if_pos (show c.toNat.isValidChar from c.valid), c.ofNat_toNat]
  | true =>
      obtain ⟨least, small⟩ := isSurrogate_iff_codePoint.mp stands
      have above := (isSurrogate_iff.mp stands).1
      have invalid : ¬ (codePoint c).isValidChar := by
        unfold Nat.isValidChar
        omega
      have back : codePoint c - 0xD800 + 0x10D800 = c.toNat := by
        rw [codePoint_surrogate stands]
        omega
      rw [ofCodePoint?, if_neg invalid, if_pos (by omega), firstSurrogate,
        firstStandIn, back, c.ofNat_toNat]

/-! ### Texts without surrogates -/

theorem isSurrogate_of_lt {c : Char} (small : c.toNat < 0x10D800) :
    isSurrogate c = false :=
  Bool.eq_false_iff.mpr fun stands =>
    absurd (isSurrogate_iff.mp stands).1 (not_le.mpr small)

theorem hasSurrogate_eq_false_iff {text : String} :
    hasSurrogate text = false ↔
      ∀ c ∈ text.toList, isSurrogate c = false := by
  rw [hasSurrogate, List.any_eq_false]
  simp only [Bool.not_eq_true]

@[simp]
theorem hasSurrogate_append (text other : String) :
    hasSurrogate (text ++ other) =
      (hasSurrogate text || hasSurrogate other) := by
  rw [hasSurrogate, String.toList_append, List.any_append]
  rfl

theorem hasSurrogate_ofList (characters : List Char) :
    hasSurrogate (String.ofList characters) = characters.any isSurrogate := by
  rw [hasSurrogate, String.toList_ofList]

theorem hasSurrogate_join (texts : List String) :
    hasSurrogate (String.join texts) = texts.any hasSurrogate := by
  rw [hasSurrogate, String.toList_join, List.any_flatMap]
  rfl

/-- A separator without surrogates adds none. -/
theorem hasSurrogate_intercalate {separator : String}
    (plain : hasSurrogate separator = false) (texts : List String) :
    hasSurrogate (separator.intercalate texts) = texts.any hasSurrogate := by
  have isSeparator : separator.toList.any isSurrogate = false := plain
  rw [hasSurrogate, String.toList_intercalate]
  induction texts with
  | nil => rfl
  | cons text texts induction =>
      cases texts with
      | nil => simp [hasSurrogate]
      | cons next texts =>
          rw [List.map_cons, List.map_cons, List.intercalate_cons_cons,
            List.any_append, List.any_append, isSeparator, Bool.or_assoc,
            Bool.false_or, ← List.map_cons, induction, List.any_cons]
          rfl

theorem isSurrogate_digitChar (digit : Nat) :
    isSurrogate digit.digitChar = false := by
  have table : ∀ digit < 16, isSurrogate digit.digitChar = false := by decide
  by_cases small : digit < 16
  · exact table digit small
  · have isStar : digit.digitChar = '*' := by
      simp (disch := omega) only [Nat.digitChar, if_neg]
    rw [isStar]
    rfl

theorem any_toDigits (base n : Nat) :
    (Nat.toDigits base n).any isSurrogate = false := by
  have core (fuel n : Nat) (digits : List Char)
      (plain : digits.any isSurrogate = false) :
      (Nat.toDigitsCore base fuel n digits).any isSurrogate = false := by
    induction fuel generalizing n digits with
    | zero => exact plain
    | succ fuel induction =>
        have more :
            ((n % base).digitChar :: digits).any isSurrogate = false := by
          rw [List.any_cons, isSurrogate_digitChar, plain]
          rfl
        unfold Nat.toDigitsCore
        dsimp only
        split
        · exact more
        · exact induction _ _ more
  exact core _ _ _ rfl

theorem hasSurrogate_nat (n : Nat) : hasSurrogate (toString n) = false := by
  change hasSurrogate (String.ofList (Nat.toDigits 10 n)) = false
  rw [hasSurrogate_ofList, any_toDigits]

theorem hasSurrogate_int (n : Int) : hasSurrogate (toString n) = false := by
  cases n with
  | ofNat n => exact hasSurrogate_nat n
  | negSucc n =>
      change hasSurrogate ("-" ++ toString (n + 1)) = false
      rw [hasSurrogate_append, hasSurrogate_nat]
      rfl

/-! ### Pairs -/

/-- The surrogate is the first code unit of a pair. -/
def opensPair (c : Char) : Prop :=
  0xD800 ≤ codePoint c ∧ codePoint c < 0xDC00

/-- The surrogate is the second code unit of a pair. -/
def closesPair (c : Char) : Prop :=
  0xDC00 ≤ codePoint c ∧ codePoint c < 0xE000

instance : DecidablePred opensPair :=
  fun _ => inferInstanceAs (Decidable (_ ∧ _))

instance : DecidablePred closesPair :=
  fun _ => inferInstanceAs (Decidable (_ ∧ _))

/-- No two surrogates in a row make a pair. -/
def IsUnpaired (text : List Char) : Prop :=
  text.IsChain fun c next => ¬ (opensPair c ∧ closesPair next)

instance (text : List Char) : Decidable (IsUnpaired text) :=
  inferInstanceAs (Decidable (List.IsChain _ text))

theorem isUnpaired_of_encodable {text : String}
    (encodable : hasSurrogate text = false) : IsUnpaired text.toList := by
  unfold hasSurrogate at encodable
  generalize text.toList = characters at encodable
  induction characters with
  | nil => exact .nil
  | cons c rest induction =>
      rw [List.any_cons, Bool.or_eq_false_iff] at encodable
      refine List.isChain_cons.mpr ⟨fun next _ pair => ?_,
        induction encodable.2⟩
      have stands := isSurrogate_iff_codePoint.mpr
        ⟨pair.1.1, pair.1.2.trans (by decide)⟩
      rw [encodable.1] at stands
      cases stands

end PaneLayout
