import Mathlib.Algebra.Group.Nat.Defs
import Mathlib.Data.List.Induction
import Mathlib.Tactic.ByContra
import PaneLayout.Text.Digit

/-!
# Numerals of all scripts

A numeral is a run of decimal digits, of one script or of several.  The digits
of a script follow its zero, so the place of a character behind the zero is its
value.  Reading a numeral gives the number that it spells, unless there are too
many digits.
-/

namespace PaneLayout

/-! ### Digits -/

def isBlankCode (code : Nat) : Bool :=
  (0x09 ≤ code && code ≤ 0x0D) || (0x1C ≤ code && code ≤ 0x20) ||
    code == 0x85 || code == 0xA0 || code == 0x1680 ||
    (0x2000 ≤ code && code ≤ 0x200A) || code == 0x2028 || code == 0x2029 ||
    code == 0x202F || code == 0x205F || code == 0x3000

theorem isDecimalDigit_iff (c : Char) :
    isDecimalDigit c = true ↔
      ∃ start ∈ digitZeros, start ≤ c.toNat ∧ c.toNat < start + 10 := by
  simp [isDecimalDigit, digitValue?, List.findSome?_isSome_iff]

theorem not_isBlank_of_isDecimalDigit {c : Char} (digit : isDecimalDigit c) :
    isBlank c = false := by
  obtain ⟨start, isStart, low, high⟩ := (isDecimalDigit_iff c).mp digit
  have table : ∀ start ∈ digitZeros, ∀ value < 10,
      isBlankCode (start + value) = false := by
    decide
  have blank := table start isStart (c.toNat - start) (by omega)
  rwa [Nat.add_sub_cancel' low] at blank

theorem not_isDecimalDigit_of_isBlank {c : Char} (blank : isBlank c) :
    isDecimalDigit c = false := by
  by_contra digit
  rw [not_isBlank_of_isDecimalDigit (by simpa using digit)] at blank
  cases blank

/-- A character stands for a digit: it is that far behind the zero of its
script. -/
def StandsFor (c : Char) (digit : Nat) : Prop :=
  digit < 10 ∧ ∃ start ∈ digitZeros, c.toNat = start + digit

/-- No character is a digit of two scripts. -/
theorem digitZeros_apart : ∀ start ∈ digitZeros, ∀ other ∈ digitZeros,
    start = other ∨ start + 10 ≤ other ∨ other + 10 ≤ start := by
  decide +kernel

theorem digitValue?_eq_some_iff {c : Char} {digit : Nat} :
    digitValue? c = some digit ↔ StandsFor c digit := by
  constructor
  · intro isDigit
    obtain ⟨start, isStart, inRun⟩ := List.exists_of_findSome?_eq_some isDigit
    split at inRun
    · cases inRun
      exact ⟨by omega, start, isStart, by omega⟩
    · cases inRun
  · rintro ⟨small, start, isStart, place⟩
    obtain ⟨value, isDigit⟩ := Option.isSome_iff_exists.mp
      ((isDecimalDigit_iff c).mpr ⟨start, isStart, by omega, by omega⟩)
    obtain ⟨other, isOther, inRun⟩ := List.exists_of_findSome?_eq_some isDigit
    have apart := digitZeros_apart start isStart other isOther
    split at inRun
    · cases inRun
      rw [isDigit]
      exact congrArg some (by omega)
    · cases inRun

theorem digitValue?_of_isDigit {c : Char} (isDigit : c.isDigit = true) :
    digitValue? c = some (c.toNat - '0'.toNat) := by
  obtain ⟨least, greatest⟩ : 48 ≤ c.toNat ∧ c.toNat ≤ 57 := by
    simpa [Char.isDigit, UInt32.le_iff_toNat_le] using isDigit
  rw [digitValue?, digitZeros, List.findSome?_cons, if_pos (by omega)]
  rfl

theorem isDecimalDigit_of_isDigit {c : Char} (isDigit : c.isDigit = true) :
    isDecimalDigit c = true := by
  rw [isDecimalDigit, digitValue?_of_isDigit isDigit]
  rfl

theorem exists_digitValues {digits : List Char}
    (areDigits : ∀ c ∈ digits, isDecimalDigit c) :
    ∃ values, digits.mapM digitValue? = some values ∧
      values.length = digits.length := by
  induction digits with
  | nil => exact ⟨[], rfl, rfl⟩
  | cons first digits induction =>
      rw [List.forall_mem_cons] at areDigits
      obtain ⟨value, read⟩ := Option.isSome_iff_exists.mp areDigits.1
      obtain ⟨values, readRest, same⟩ := induction areDigits.2
      exact ⟨value :: values, by rw [List.mapM_cons, read, readRest]; rfl,
        by simp [same]⟩

theorem areDigits_of_read {text : List Char} {values : List Nat}
    (read : text.mapM digitValue? = some values) :
    ∀ c ∈ text, isDecimalDigit c := by
  induction text generalizing values with
  | nil => exact List.forall_mem_nil _
  | cons c text induction =>
      rw [List.mapM_cons] at read
      obtain ⟨first, isFirst, read⟩ := Option.bind_eq_some_iff.mp read
      obtain ⟨rest, isRest, -⟩ := Option.bind_eq_some_iff.mp read
      exact List.forall_mem_cons.mpr
        ⟨Option.isSome_iff_exists.mpr ⟨first, isFirst⟩, induction isRest⟩

/-! ### Numerals -/

/-- A run of digits spells a number: each further digit makes it ten times as
large and adds the value of the digit. -/
inductive Numeral : List Char → Nat → Prop where
  | digit {c : Char} {digit : Nat} : StandsFor c digit → Numeral [c] digit
  | more {text : List Char} {n : Nat} {c : Char} {digit : Nat} :
      Numeral text n → StandsFor c digit →
      Numeral (text ++ [c]) (10 * n + digit)

theorem mapM_digitValue?_concat {text : List Char} {c : Char}
    {values : List Nat} :
    (text ++ [c]).mapM digitValue? = some values ↔
      ∃ others digit, text.mapM digitValue? = some others ∧
        StandsFor c digit ∧ values = others ++ [digit] := by
  simp only [List.mapM_append, List.mapM_cons, List.mapM_nil, bind, pure,
    Option.bind_some, Option.bind_eq_some_iff, digitValue?_eq_some_iff,
    Option.some.injEq]
  constructor
  · rintro ⟨others, read, _, ⟨digit, stands, rfl⟩, rfl⟩
    exact ⟨others, digit, read, stands, rfl⟩
  · rintro ⟨others, digit, read, stands, rfl⟩
    exact ⟨others, read, [digit], ⟨digit, stands, rfl⟩, rfl⟩

theorem valueOfDigits_concat (values : List Nat) (digit : Nat) :
    valueOfDigits (values ++ [digit]) = 10 * valueOfDigits values + digit := by
  rw [valueOfDigits, List.foldl_append]
  rfl

theorem numeral_iff {text : List Char} {n : Nat} :
    Numeral text n ↔
      text ≠ [] ∧ ∃ values, text.mapM digitValue? = some values ∧
        valueOfDigits values = n := by
  constructor
  · intro numeral
    induction numeral with
    | @digit c digit stands =>
        have read : [c].mapM digitValue? = some [digit] := by
          rw [List.mapM_cons, digitValue?_eq_some_iff.mpr stands]
          rfl
        exact ⟨List.cons_ne_nil _ _, [digit], read, Nat.zero_add digit⟩
    | more _ stands induction =>
        obtain ⟨-, values, read, rfl⟩ := induction
        exact ⟨by simp, _,
          mapM_digitValue?_concat.mpr ⟨values, _, read, stands, rfl⟩,
          valueOfDigits_concat values _⟩
  · rintro ⟨nonempty, values, read, rfl⟩
    induction text using List.reverseRecOn generalizing values with
    | nil => exact absurd rfl nonempty
    | append_singleton text c induction =>
        obtain ⟨others, digit, readOthers, stands, rfl⟩ :=
          mapM_digitValue?_concat.mp read
        rw [valueOfDigits_concat]
        rcases eq_or_ne text [] with rfl | nonempty
        · cases readOthers
          exact (Nat.zero_add digit).symm ▸ .digit stands
        · exact .more (induction nonempty others readOthers) stands

theorem Numeral.areDigits {text : List Char} {n : Nat}
    (numeral : Numeral text n) : ∀ c ∈ text, isDecimalDigit c := by
  obtain ⟨-, values, read, -⟩ := numeral_iff.mp numeral
  exact areDigits_of_read read

theorem exists_numeral {text : List Char} (nonempty : text ≠ [])
    (areDigits : ∀ c ∈ text, isDecimalDigit c) : ∃ n, Numeral text n := by
  obtain ⟨values, read, -⟩ := exists_digitValues areDigits
  exact ⟨_, numeral_iff.mpr ⟨nonempty, values, read, rfl⟩⟩

theorem Numeral.lt {text : List Char} {n : Nat} (numeral : Numeral text n) :
    n < 10 ^ text.length := by
  induction numeral with
  | digit stands => exact stands.1
  | more _ stands induction =>
      rw [List.length_append, List.length_singleton, Nat.pow_succ]
      have small := stands.1
      omega

/-! ### Reading -/

/-- A numeral is read as what it spells, unless it is too long. -/
theorem readDigits_numeral {text : List Char} {n : Nat}
    (numeral : Numeral text n) :
    readDigits text =
      if text.length ≤ digitLimit then .ok n else .error .numeralTooLong := by
  obtain ⟨nonempty, values, read, rfl⟩ := numeral_iff.mp numeral
  obtain ⟨_, readAgain, same⟩ := exists_digitValues (areDigits_of_read read)
  cases read.symm.trans readAgain
  rw [readDigits, read, ← same]
  cases values with
  | nil => exact absurd (List.length_eq_zero_iff.mp same.symm) nonempty
  | cons value values => rfl

theorem readDigits_malformed {text : List Char} {c : Char} (member : c ∈ text)
    (noDigit : isDecimalDigit c = false) :
    readDigits text = .error .malformedNumeral := by
  have unread : text.mapM digitValue? = none := by
    rw [Option.eq_none_iff_forall_ne_some]
    intro values read
    rw [areDigits_of_read read c member] at noDigit
    cases noDigit
  rw [readDigits, unread]

/-- Only characters that are no digits, or too many of them, keep a numeral from
being read. -/
theorem readDigits_error {text : List Char} {cause : Fault}
    (nonempty : text ≠ []) (failed : readDigits text = .error cause) :
    (cause = .malformedNumeral ∧ ∃ c ∈ text, isDecimalDigit c = false) ∨
      (cause = .numeralTooLong ∧ digitLimit < text.length) := by
  by_cases areDigits : ∀ c ∈ text, isDecimalDigit c
  · obtain ⟨n, numeral⟩ := exists_numeral nonempty areDigits
    rw [readDigits_numeral numeral] at failed
    split at failed
    · cases failed
    · next long =>
      cases failed
      exact .inr ⟨rfl, Nat.not_le.mp long⟩
  · simp only [not_forall, Bool.not_eq_true] at areDigits
    obtain ⟨c, member, noDigit⟩ := areDigits
    rw [readDigits_malformed member noDigit] at failed
    cases failed
    exact .inl ⟨rfl, c, member, noDigit⟩

theorem readDigits_eq_ok_iff {text : List Char} {n : Nat} :
    readDigits text = .ok n ↔ Numeral text n ∧ text.length ≤ digitLimit := by
  constructor
  · intro ok
    have nonempty : text ≠ [] := by
      rintro rfl
      cases ok
    have areDigits : ∀ c ∈ text, isDecimalDigit c := by
      by_contra stray
      simp only [not_forall, Bool.not_eq_true] at stray
      obtain ⟨c, member, noDigit⟩ := stray
      rw [readDigits_malformed member noDigit] at ok
      cases ok
    obtain ⟨value, numeral⟩ := exists_numeral nonempty areDigits
    rw [readDigits_numeral numeral] at ok
    split at ok
    · next short =>
      cases ok
      exact ⟨numeral, short⟩
    · cases ok
  · rintro ⟨numeral, short⟩
    rw [readDigits_numeral numeral, if_pos short]

/-- A numeral that is read has a bounded value. -/
theorem readDigits_lt {text : List Char} {n : Nat}
    (ok : readDigits text = .ok n) : n < Nat.pow 10 digitLimit := by
  obtain ⟨numeral, short⟩ := readDigits_eq_ok_iff.mp ok
  generalize digitLimit = limit at short
  exact Nat.lt_of_lt_of_le numeral.lt
    (Nat.pow_le_pow_right (by decide) short)

end PaneLayout
