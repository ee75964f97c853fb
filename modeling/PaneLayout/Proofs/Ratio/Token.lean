import PaneLayout.Proofs.Ratio.Entry

/-!
# Tokens of fixed cells

A text among the entries of a ratio asks for a number of cells if it is a
numeral and the letter `c`, with blanks wherever they do not split the numeral.
The reader accepts the tokens of positive numbers and no other text.  It answers
for every text but a token whose numeral is too long to be read.
-/

namespace PaneLayout

namespace RatioEntry

/-- A token for a number of cells: its numeral and the letter, between blanks
that may be missing. -/
inductive CellToken : List Char → List Char → Nat → Prop where
  | mk {before digits between after : List Char} {count : Nat} :
      (∀ c ∈ before, isBlank c) → Numeral digits count →
      (∀ c ∈ between, isBlank c) → (∀ c ∈ after, isBlank c) →
      CellToken (before ++ (digits ++ (between ++ 'c' :: after))) digits count

/-- Somewhere in a text there is a numeral that is too long to be read. -/
def HoldsLongNumeral (text : List Char) : Prop :=
  ∃ digits count, digits <:+: text ∧ Numeral digits count ∧
    digitLimit < digits.length

theorem cellToken_iff {text digits : List Char} {count : Nat} :
    CellToken text digits count ↔
      IsToken text digits ∧ Numeral digits count := by
  constructor
  · rintro ⟨blanksBefore, numeral, blanksBetween, blanksAfter⟩
    exact ⟨⟨_, _, _, rfl, (numeral_iff.mp numeral).1, numeral.areDigits,
      blanksBefore, blanksBetween, blanksAfter⟩, numeral⟩
  · rintro ⟨⟨before, between, after, rfl, -, -, blanksBefore, blanksBetween,
      blanksAfter⟩, numeral⟩
    exact .mk blanksBefore numeral blanksBetween blanksAfter

/-- The reader finds the numeral of a token. -/
theorem tokenDigits?_eq_some_iff {text digits : List Char} :
    tokenDigits? text = some digits ↔ ∃ count, CellToken text digits count := by
  constructor
  · intro read
    have token := isToken_of_tokenDigits? read
    obtain ⟨_, _, _, _, nonempty, areDigits, _⟩ := id token
    obtain ⟨count, numeral⟩ := exists_numeral nonempty areDigits
    exact ⟨count, cellToken_iff.mpr ⟨token, numeral⟩⟩
  · rintro ⟨count, token⟩
    exact tokenDigits?_of_isToken (cellToken_iff.mp token).1

theorem CellToken.infix {text digits : List Char} {count : Nat}
    (token : CellToken text digits count) : digits <:+: text := by
  obtain ⟨⟩ := token
  exact List.infix_append' _ _ _

/-- What the reader makes of a token. -/
theorem parse_cellToken {text : String} {digits : List Char} {count : Nat}
    (token : CellToken text.toList digits count) :
    parse (.text text) =
      if digits.length ≤ digitLimit then .ok (ofCount count)
      else .error .numeralTooLong := by
  have read := tokenDigits?_eq_some_iff.mpr ⟨count, token⟩
  simp only [parse, read, readDigits_numeral (cellToken_iff.mp token).2]
  split <;> rfl

theorem parse_other {text : String}
    (other : ¬ ∃ digits count, CellToken text.toList digits count) :
    parse (.text text) = .ok none := by
  cases read : tokenDigits? text.toList with
  | none =>
      simp only [parse, read]
      rfl
  | some digits => exact absurd ⟨digits, tokenDigits?_eq_some_iff.mp read⟩ other

theorem ofCount_eq_some_iff {count : Nat} {entry : RatioEntry} :
    ofCount count = some entry ↔
      ∃ positive : 0 < count, entry = .cells count positive := by
  unfold ofCount
  split
  · next positive => simp [positive, eq_comm]
  · next absent => simp [absent]

theorem parse_text_eq_some_iff {text : String} {entry : RatioEntry} :
    parse (.text text) = .ok (some entry) ↔
      ∃ digits count, ∃ positive : 0 < count,
        CellToken text.toList digits count ∧ digits.length ≤ digitLimit ∧
          entry = .cells count positive := by
  constructor
  · intro parsed
    by_cases isToken : ∃ digits count, CellToken text.toList digits count
    · obtain ⟨digits, count, token⟩ := isToken
      rw [parse_cellToken token] at parsed
      split at parsed
      · next short =>
        obtain ⟨positive, isEntry⟩ :=
          ofCount_eq_some_iff.mp (Except.ok.inj parsed)
        exact ⟨digits, count, positive, token, short, isEntry⟩
      · cases parsed
    · rw [parse_other isToken] at parsed
      cases parsed
  · rintro ⟨digits, count, positive, token, short, rfl⟩
    rw [parse_cellToken token, if_pos short,
      ofCount_eq_some_iff.mpr ⟨positive, rfl⟩]

theorem parse_text_eq_error_iff {text : String} {cause : Fault} :
    parse (.text text) = .error cause ↔
      cause = .numeralTooLong ∧ ∃ digits count,
        CellToken text.toList digits count ∧ digitLimit < digits.length := by
  constructor
  · intro failed
    by_cases isToken : ∃ digits count, CellToken text.toList digits count
    · obtain ⟨digits, count, token⟩ := isToken
      rw [parse_cellToken token] at failed
      split at failed
      · cases failed
      · next long =>
        cases failed
        exact ⟨rfl, digits, count, token, Nat.not_le.mp long⟩
    · rw [parse_other isToken] at failed
      cases failed
  · rintro ⟨rfl, digits, count, token, long⟩
    rw [parse_cellToken token, if_neg (Nat.not_le.mpr long)]

theorem parse_text_eq_none {text : String}
    (short : ¬ HoldsLongNumeral text.toList)
    (other : ¬ ∃ digits count, 0 < count ∧ CellToken text.toList digits count) :
    parse (.text text) = .ok none := by
  cases parsed : parse (.text text) with
  | error cause =>
      obtain ⟨-, digits, count, token, long⟩ :=
        parse_text_eq_error_iff.mp parsed
      exact absurd ⟨digits, count, token.infix,
        (cellToken_iff.mp token).2, long⟩ short
  | ok result =>
      cases result with
      | none => rfl
      | some entry =>
          obtain ⟨digits, count, positive, token, -, -⟩ :=
            parse_text_eq_some_iff.mp parsed
          exact absurd ⟨digits, count, positive, token⟩ other

/-- The texts that are read as entries are exactly the tokens of positive
numbers whose numerals are short enough, and such an entry has the number of its
token.  Reading fails exactly for the tokens with longer numerals.  So a text
that holds no such numeral and is no such token is read as no entry. -/
theorem parse_text_reads_token (text : String) :
    (∀ entry, parse (.text text) = .ok (some entry) ↔
      ∃ digits count, ∃ positive : 0 < count,
        CellToken text.toList digits count ∧ digits.length ≤ digitLimit ∧
          entry = .cells count positive) ∧
    (∀ cause, parse (.text text) = .error cause ↔
      cause = .numeralTooLong ∧ ∃ digits count,
        CellToken text.toList digits count ∧ digitLimit < digits.length) ∧
    (¬ HoldsLongNumeral text.toList →
      (¬ ∃ digits count, 0 < count ∧ CellToken text.toList digits count) →
      parse (.text text) = .ok none) :=
  ⟨fun _ => parse_text_eq_some_iff, fun _ => parse_text_eq_error_iff,
    parse_text_eq_none⟩

theorem not_holdsLongNumeral {text : List Char}
    (short : text.length ≤ digitLimit) : ¬ HoldsLongNumeral text := by
  rintro ⟨digits, count, inside, -, long⟩
  exact absurd (inside.length_le.trans short) (Nat.not_le.mpr long)

theorem parse_text_reads_token_scripts :
    parse (.text " ３0 c\n") = .ok (some (.cells 30 (by decide))) ∧
      parse (.text "30 cm") = .ok none := by
  have three : StandsFor '３' 3 := ⟨by decide, 0xFF10, by decide, rfl⟩
  have zero : StandsFor '0' 0 := ⟨by decide, 0x30, by decide, rfl⟩
  have blank : ∀ c ∈ [' '], isBlank c := List.forall_mem_singleton.mpr rfl
  have ending : ∀ c ∈ ['\n'], isBlank c := List.forall_mem_singleton.mpr rfl
  have token : CellToken " ３0 c\n".toList ['３', '0'] 30 :=
    .mk blank (.more (.digit three) zero) blank ending
  have noToken : ¬ ∃ digits count, 0 < count ∧
      CellToken "30 cm".toList digits count := by
    rintro ⟨digits, count, -, token⟩
    have read := tokenDigits?_eq_some_iff.mpr ⟨count, token⟩
    rw [show tokenDigits? "30 cm".toList = none by decide] at read
    cases read
  exact ⟨((parse_text_reads_token " ３0 c\n").1 _).mpr
      ⟨_, 30, by decide, token, by decide, rfl⟩,
    (parse_text_reads_token "30 cm").2.2
      (not_holdsLongNumeral (by decide)) noToken⟩

end RatioEntry

end PaneLayout
