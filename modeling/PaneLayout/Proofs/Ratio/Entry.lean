import Mathlib.Data.List.TakeWhile
import PaneLayout.Proofs.Number.Binary64
import PaneLayout.Proofs.Text.Digit
import PaneLayout.Ratio

/-!
# The entries of a ratio in a document

An entry is a positive number or a token of a positive number of cells.  The
grammar says so without the reader, and the reader accepts just that.
-/

namespace PaneLayout

namespace RatioEntry

/-- The form of a token: blanks, decimal digits, blanks, the letter, blanks. -/
def IsToken (text digits : List Char) : Prop :=
  ∃ before between after,
    text = before ++ (digits ++ (between ++ 'c' :: after)) ∧ digits ≠ [] ∧
      (∀ c ∈ digits, isDecimalDigit c) ∧ (∀ c ∈ before, isBlank c) ∧
      (∀ c ∈ between, isBlank c) ∧ ∀ c ∈ after, isBlank c

/-- What an entry of a document denotes: a finite positive number its nearest
double, and a token the positive number of its digits. -/
inductive Denotes : Value → RatioEntry → Prop where
  | whole {n : Int} {x : Float} : 0 < n → Binary64.ofInt n = .ok x →
      Denotes (.int n) (.weight x)
  | double {x : Float} : x.isFinite → 0 < x → Denotes (.float x) (.weight x)
  | token {text : String} {digits : List Char} {values : List Nat}
      (positive : 0 < valueOfDigits values) : IsToken text.toList digits →
      digits.mapM digitValue? = some values →
      Denotes (.text text) (.cells (valueOfDigits values) positive)

/-- A run of characters is taken up to the first one that does not belong. -/
theorem takeWhile_run {test : Char → Bool} {run rest : List Char}
    (inside : ∀ c ∈ run, test c) (stops : ∀ c ∈ rest.head?, test c = false) :
    (run ++ rest).takeWhile test = run ∧
      (run ++ rest).dropWhile test = rest := by
  rw [List.takeWhile_append_of_pos inside, List.dropWhile_append_of_pos inside]
  cases rest with
  | nil => simp
  | cons c rest =>
      have stop := stops c rfl
      simp [stop]

theorem tokenDigits?_of_isToken {text digits : List Char}
    (token : IsToken text digits) : tokenDigits? text = some digits := by
  obtain ⟨before, between, after, rfl, nonempty, areDigits, blanksBefore,
    blanksBetween, blanksAfter⟩ := token
  have letter : isBlank 'c' = false ∧ isDecimalDigit 'c' = false := by decide
  obtain ⟨first, others, rfl⟩ := List.exists_cons_of_ne_nil nonempty
  have digitsStop :
      ∀ c ∈ ((first :: others) ++ (between ++ 'c' :: after)).head?,
        isBlank c = false := by
    rintro c ⟨⟩
    exact not_isBlank_of_isDecimalDigit (areDigits _ List.mem_cons_self)
  have betweenStops : ∀ c ∈ (between ++ 'c' :: after).head?,
      isDecimalDigit c = false := by
    cases between with
    | nil =>
        rintro c ⟨⟩
        exact letter.2
    | cons blank between =>
        rintro c ⟨⟩
        exact not_isDecimalDigit_of_isBlank
          (blanksBetween _ List.mem_cons_self)
  have letterStops : ∀ c ∈ ('c' :: after).head?, isBlank c = false := by
    rintro c ⟨⟩
    exact letter.1
  have allBlank : after.all isBlank = true := List.all_eq_true.mpr blanksAfter
  unfold tokenDigits?
  dsimp only
  rw [(takeWhile_run blanksBefore digitsStop).2,
    (takeWhile_run areDigits betweenStops).1,
    (takeWhile_run areDigits betweenStops).2,
    (takeWhile_run blanksBetween letterStops).2]
  simp [allBlank]

theorem isToken_of_tokenDigits? {text digits : List Char}
    (read : tokenDigits? text = some digits) : IsToken text digits := by
  unfold tokenDigits? at read
  dsimp only at read
  split at read
  · rename_i after letter
    split at read
    · rename_i accepted
      cases read
      simp only [Bool.and_eq_true, Bool.not_eq_true', List.isEmpty_eq_false_iff,
        List.all_eq_true] at accepted
      have body := List.takeWhile_append_dropWhile (p := isBlank) (l := text)
      have rest := List.takeWhile_append_dropWhile (p := isDecimalDigit)
        (l := text.dropWhile isBlank)
      have between := List.takeWhile_append_dropWhile (p := isBlank)
        (l := (text.dropWhile isBlank).dropWhile isDecimalDigit)
      refine ⟨text.takeWhile isBlank,
        ((text.dropWhile isBlank).dropWhile isDecimalDigit).takeWhile isBlank,
        after, ?_, accepted.1, fun c => List.mem_takeWhile_imp,
        fun c => List.mem_takeWhile_imp, fun c => List.mem_takeWhile_imp,
        accepted.2⟩
      rw [letter] at between
      rw [between, rest, body]
    · cases read
  · cases read

theorem ofWeight_eq_some_iff {x : Float} {entry : RatioEntry} :
    ofWeight x = some entry ↔ x.isFinite ∧ 0 < x ∧ entry = .weight x := by
  by_cases finite : x.isFinite = true
  · rw [Binary64.pos_iff_of_isFinite finite]
    by_cases positive : x ≤ 0 <;> simp [ofWeight, finite, positive, eq_comm]
  · simp [ofWeight, finite]

theorem parse_whole {n : Int} {x : Float}
    (converted : Binary64.ofInt n = .ok x) :
    parse (.int n) = .ok (ofWeight x) := by
  rw [parse, converted]
  rfl

/-- A token that is short enough is read as the number of its digits. -/
theorem parse_token {text : String} {digits : List Char}
    (token : IsToken text.toList digits)
    (short : digits.length ≤ digitLimit) :
    ∃ values, digits.mapM digitValue? = some values ∧
      parse (.text text) = .ok (ofCount (valueOfDigits values)) := by
  have isRead := tokenDigits?_of_isToken token
  obtain ⟨_, _, _, _, nonempty, areDigits, _⟩ := token
  obtain ⟨values, read, -⟩ := exists_digitValues areDigits
  have numeral := numeral_iff.mpr ⟨nonempty, values, read, rfl⟩
  refine ⟨values, read, ?_⟩
  simp only [parse, isRead, readDigits_numeral numeral, if_pos short]
  rfl

/-- Tokens are short enough to be read. -/
def IsShort : Value → Prop
  | .text text => ∀ digits, IsToken text.toList digits →
      digits.length ≤ digitLimit
  | _ => True

theorem isShort_of_length_le {text : String}
    (short : text.toList.length ≤ digitLimit) : IsShort (.text text) := by
  rintro digits ⟨before, between, after, written, _⟩
  rw [written] at short
  simp only [List.length_append] at short
  omega

/-- The reader accepts exactly what the grammar describes. -/
theorem parse_eq_some_iff {raw : Value} {entry : RatioEntry}
    (short : IsShort raw) :
    parse raw = .ok (some entry) ↔ Denotes raw entry := by
  constructor
  · intro parsed
    cases raw with
    | int n =>
        cases converted : Binary64.ofInt n with
        | error cause =>
            rw [parse, converted] at parsed
            cases parsed
        | ok x =>
            rw [parse_whole converted] at parsed
            obtain ⟨finite, positive, rfl⟩ :=
              ofWeight_eq_some_iff.mp (Except.ok.inj parsed)
            obtain ⟨_, rfl⟩ := Binary64.ofInt_eq_ok_iff.mp converted
            rw [Binary64.pos_iff_of_isFinite finite,
              Binary64.ofInt_le_zero_iff] at positive
            exact .whole (by omega) converted
    | float x =>
        obtain ⟨finite, positive, rfl⟩ :=
          ofWeight_eq_some_iff.mp (Except.ok.inj parsed)
        exact .double finite positive
    | text text =>
        cases isRead : tokenDigits? text.toList with
        | none =>
            simp only [parse, isRead] at parsed
            cases parsed
        | some digits =>
            have token := isToken_of_tokenDigits? isRead
            obtain ⟨values, read, isParsed⟩ := parse_token token (short _ token)
            rw [isParsed] at parsed
            have counted := Except.ok.inj parsed
            unfold ofCount at counted
            split at counted
            · cases counted
              exact .token ‹_› token read
            · cases counted
    | _ => cases parsed
  · intro denotes
    cases denotes with
    | @whole n x positive converted =>
        obtain ⟨finite, rfl⟩ := Binary64.ofInt_eq_ok_iff.mp converted
        have notNegative : ¬ Float.ofInt n ≤ 0 := by
          rw [Binary64.ofInt_le_zero_iff]
          omega
        rw [parse_whole converted, ofWeight_eq_some_iff.mpr ⟨finite,
          (Binary64.pos_iff_of_isFinite finite).mpr notNegative, rfl⟩]
    | double finite positive =>
        exact congrArg _ (ofWeight_eq_some_iff.mpr ⟨finite, positive, rfl⟩)
    | token positive token read =>
        obtain ⟨values, readAgain, isParsed⟩ :=
          parse_token token (short _ token)
        cases read.symm.trans readAgain
        rw [isParsed, ofCount, dif_pos positive]

theorem parse_ok {raw : Value} (short : IsShort raw)
    (fits : ∀ n, raw = .int n → ∃ x, Binary64.ofInt n = .ok x) :
    ∃ result, parse raw = .ok result := by
  cases raw with
  | int n =>
      obtain ⟨x, converted⟩ := fits n rfl
      exact ⟨_, parse_whole converted⟩
  | text text =>
      cases isRead : tokenDigits? text.toList with
      | none => exact ⟨none, by simp only [parse, isRead]; rfl⟩
      | some digits =>
          have token := isToken_of_tokenDigits? isRead
          obtain ⟨values, _, isParsed⟩ := parse_token token (short _ token)
          exact ⟨_, isParsed⟩
  | _ => exact ⟨_, rfl⟩

end RatioEntry

end PaneLayout
