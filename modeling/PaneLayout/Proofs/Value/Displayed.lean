import PaneLayout.Proofs.Fault
import PaneLayout.Proofs.Number.Numeral
import PaneLayout.Proofs.Value.Everywhere
import PaneLayout.Text.Base64
import PaneLayout.Value.Display

/-!
# Texts that values are shown as

A quoted text shows surrogates by escapes, and all other notations of values
have no place for them.  So the text of a key holds a surrogate only if the key
is a text itself.
-/

namespace PaneLayout

open Shortest

/-! ### Quoted texts -/

theorem isSurrogate_of_isPrintable {c : Char} (printable : isPrintable c = true) :
    isSurrogate c = false := by
  refine Bool.eq_false_iff.mpr fun stands => ?_
  have least := (isSurrogate_iff.mp stands).1
  have limit := (char_bounds c).1
  have isLast : (0xE01F0, 0x10FFFF) ∈ unprintableRanges := by decide +kernel
  unfold isPrintable at printable
  rw [if_neg (by omega), Bool.not_eq_true', List.any_eq_false] at printable
  refine printable _ isLast ?_
  rw [Bool.and_eq_true, decide_eq_true_iff, decide_eq_true_iff]
  omega

/-- Zeros fill a numeral up. -/
theorem any_zeros (count : Nat) :
    (List.replicate count '0').any isSurrogate = false := by
  rw [List.any_eq_false]
  intro c isZero
  rw [List.eq_of_mem_replicate isZero]
  decide

theorem hasSurrogate_hexText (width n : Nat) :
    hasSurrogate (hexText width n) = false := by
  rw [hexText, hasSurrogate_ofList, List.any_append, any_toDigits, any_zeros]
  rfl

theorem hasSurrogate_codeEscape (c : Char) :
    hasSurrogate (codeEscape c) = false := by
  have marks : hasSurrogate "\\x" = false ∧ hasSurrogate "\\u" = false ∧
      hasSurrogate "\\U" = false := by
    decide
  unfold codeEscape
  dsimp only
  split_ifs <;> simp [marks, hasSurrogate_hexText]

section Quote

variable {quote : Char} (plain : isSurrogate quote = false)

include plain

theorem hasSurrogate_quotedChar (c : Char) :
    hasSurrogate (quotedChar quote c) = false := by
  unfold quotedChar
  split_ifs with escaped _ _ _ printable
  · rw [hasSurrogate_ofList, List.any_cons, List.any_cons]
    rcases escaped with rfl | rfl
    · rw [plain]
      decide
    · decide
  · decide
  · decide
  · decide
  · rw [hasSurrogate_ofList, List.any_cons,
      isSurrogate_of_isPrintable printable]
    rfl
  · exact hasSurrogate_codeEscape c

theorem hasSurrogate_quotedOctet (octet : UInt8) :
    hasSurrogate (quotedOctet quote octet) = false := by
  unfold quotedOctet
  dsimp only
  split
  · exact hasSurrogate_quotedChar plain _
  · rw [hasSurrogate_append, hasSurrogate_hexText, Bool.or_false]
    decide

/-- Pieces without surrogates between quotes. -/
theorem hasSurrogate_between {α : Type} {piece : α → String}
    (pieces : ∀ item, hasSurrogate (piece item) = false) (items : List α) :
    hasSurrogate (String.ofList [quote] ++ String.join (items.map piece) ++
      String.ofList [quote]) = false := by
  have inside : (items.map piece).any hasSurrogate = false := by
    rw [List.any_map, List.any_eq_false]
    exact fun item _ isPiece => by simp [pieces] at isPiece
  rw [hasSurrogate_append, hasSurrogate_append, hasSurrogate_ofList,
    hasSurrogate_join, inside, List.any_cons, plain]
  rfl

end Quote

theorem hasSurrogate_quoted (text : String) :
    hasSurrogate (quoted text) = false := by
  have plain : isSurrogate (quoteFor text) = false := by
    unfold quoteFor
    split <;> decide
  exact hasSurrogate_between plain (hasSurrogate_quotedChar plain) _

theorem hasSurrogate_quotedBytes (octets : List UInt8) :
    hasSurrogate (quotedBytes octets) = false := by
  have mark : hasSurrogate "b" = false := by decide
  have plain (isDouble : Bool) :
      isSurrogate (if isDouble then '"' else '\'') = false := by
    cases isDouble <;> decide
  unfold quotedBytes
  dsimp only
  rw [String.append_assoc, String.append_assoc, hasSurrogate_append, mark,
    ← String.append_assoc]
  exact hasSurrogate_between (plain _) (hasSurrogate_quotedOctet (plain _)) _

/-! ### Numbers -/

theorem isSurrogate_of_isNumeralChar {c : Char}
    (isNumeral : isNumeralChar c = true) : isSurrogate c = false := by
  simp only [isNumeralChar, Bool.or_eq_true, beq_iff_eq, Char.isDigit,
    Bool.and_eq_true, decide_eq_true_eq, UInt32.le_iff_toNat_le] at isNumeral
  rcases isNumeral with (((digit | rfl) | rfl) | rfl) | rfl
  · exact isSurrogate_of_lt (digit.2.trans_lt (by decide))
  · decide
  · decide
  · decide
  · decide

/-- A double has a text without surrogates if the words for doubles that are not
finite have none. -/
theorem hasSurrogate_layout {layout : Shortest.Layout}
    (infinity : hasSurrogate layout.infinity = false)
    (negativeInfinity : hasSurrogate layout.negativeInfinity = false)
    (notANumber : hasSurrogate layout.notANumber = false) (x : Float) :
    hasSurrogate (layout.text x) = false := by
  by_cases finite : x.isFinite = true
  · exact hasSurrogate_eq_false_iff.mpr fun c member =>
      isSurrogate_of_isNumeralChar ((text_characters layout finite).1 c member)
  · have isFinite : x.isFinite = x.toModel.unpack.isFinite := rfl
    rw [isFinite] at finite
    unfold Shortest.Layout.text
    cases unpacked : x.toModel.unpack with
    | infinity sign =>
        cases sign with
        | positive => exact infinity
        | negative => exact negativeInfinity
    | notANumber => exact notANumber
    | zero =>
        rw [unpacked] at finite
        exact absurd rfl finite
    | finite =>
        rw [unpacked] at finite
        exact absurd rfl finite

theorem hasSurrogate_doubleText (x : Float) :
    hasSurrogate (doubleText x) = false :=
  hasSurrogate_layout (by decide) (by decide) (by decide) x

theorem hasSurrogate_wholeText {n : Int} {text : String}
    (written : wholeText n = .ok text) : hasSurrogate text = false := by
  unfold wholeText at written
  split at written
  · cases written
    exact hasSurrogate_int n
  · cases written

theorem hasSurrogate_base64 (octets : List UInt8) :
    hasSurrogate (String.ofList (Base64.encode octets)) = false := by
  have plain (n : Nat) : isSurrogate (Base64.digit n) = false := by
    unfold Base64.digit
    cases found : Base64.alphabet[n]? with
    | none => decide
    | some c =>
        have table : Base64.alphabet.all (!isSurrogate ·) = true := by decide
        have isPlain := List.all_eq_true.mp table c (List.mem_of_getElem? found)
        rwa [Bool.not_eq_true'] at isPlain
  have padding : isSurrogate '=' = false := by decide
  rw [hasSurrogate_ofList]
  fun_induction Base64.encode octets <;> simp_all

/-! ### Moments -/

theorem hasSurrogate_padded (width n : Nat) :
    hasSurrogate (padded width n) = false := by
  have digits := hasSurrogate_nat n
  unfold hasSurrogate at digits
  rw [padded, hasSurrogate_ofList, List.any_append, digits, any_zeros]
  rfl

theorem hasSurrogate_date (date : Date) : hasSurrogate date.text = false := by
  have separator : hasSurrogate "-" = false := by decide
  simp [Date.text, hasSurrogate_padded, separator]

theorem hasSurrogate_offsetText (minutes : Int) :
    hasSurrogate (Timestamp.offsetText minutes) = false := by
  have marks : hasSurrogate "-" = false ∧ hasSurrogate "+" = false ∧
      hasSurrogate ":" = false := by
    decide
  unfold Timestamp.offsetText
  split <;> simp [hasSurrogate_padded, marks]

theorem hasSurrogate_textWith {separator : String} {offsetText : Int → String}
    (plain : hasSurrogate separator = false)
    (offsets : ∀ minutes, hasSurrogate (offsetText minutes) = false)
    (moment : Timestamp) :
    hasSurrogate (moment.textWith separator offsetText) = false := by
  have marks : hasSurrogate "" = false ∧ hasSurrogate "." = false ∧
      hasSurrogate ":" = false := by
    decide
  unfold Timestamp.textWith
  cases moment.offset <;> split_ifs <;>
    simp [hasSurrogate_padded, hasSurrogate_date, plain, offsets, marks]

theorem hasSurrogate_dateDisplay (date : Date) :
    hasSurrogate date.display = false := by
  have marks : hasSurrogate "datetime.date(" = false ∧
      hasSurrogate ", " = false ∧ hasSurrogate ")" = false := by
    decide +kernel
  change hasSurrogate ("datetime.date(" ++ toString date.year ++ ", " ++
    toString date.month ++ ", " ++ toString date.day ++ ")") = false
  simp only [hasSurrogate_append, hasSurrogate_nat, marks, Bool.or_false]

theorem hasSurrogate_displayOffset (minutes : Int) :
    hasSurrogate (Timestamp.displayOffset minutes) = false := by
  have marks : hasSurrogate "datetime.timezone.utc" = false ∧
      hasSurrogate "datetime.timezone(datetime.timedelta(" = false ∧
      hasSurrogate "))" = false ∧ hasSurrogate ", " = false := by
    decide +kernel
  have days (n : Int) : hasSurrogate s!"days={n}" = false := by
    change hasSurrogate ("days=" ++ toString n) = false
    rw [hasSurrogate_append, hasSurrogate_int]
    decide +kernel
  have seconds (n : Int) : hasSurrogate s!"seconds={n}" = false := by
    change hasSurrogate ("seconds=" ++ toString n) = false
    rw [hasSurrogate_append, hasSurrogate_int]
    decide +kernel
  unfold Timestamp.displayOffset
  split_ifs with isUtc
  · exact marks.1
  · dsimp only
    rw [hasSurrogate_append, hasSurrogate_append,
      hasSurrogate_intercalate marks.2.2.2, List.any_append, List.any_cons,
      seconds, marks.2.1, marks.2.2.1]
    split_ifs
    · rfl
    · rw [List.any_cons, days]
      rfl

theorem hasSurrogate_timestampDisplay (moment : Timestamp) :
    hasSurrogate moment.display = false := by
  have marks : hasSurrogate "datetime.datetime(" = false ∧
      hasSurrogate ")" = false ∧ hasSurrogate ", " = false ∧
      hasSurrogate "tzinfo=" = false := by
    decide +kernel
  have fields (numbers : List Nat) :
      (numbers.map toString).any hasSurrogate = false := by
    rw [List.any_map, List.any_eq_false]
    exact fun n _ => Bool.not_eq_true _ ▸ hasSurrogate_nat n
  unfold Timestamp.display
  dsimp only
  rw [hasSurrogate_append, hasSurrogate_append, marks.1, marks.2.1,
    hasSurrogate_intercalate marks.2.2.1, List.any_append, fields]
  cases moment.offset with
  | none => rfl
  | some minutes =>
      rw [List.any_cons, hasSurrogate_append, hasSurrogate_displayOffset,
        marks.2.2.2]
      rfl

/-! ### Keys -/

/-- Texts without surrogates in brackets. -/
theorem hasSurrogate_enclosed {opening closing : String} {texts : List String}
    (plain : hasSurrogate opening = false)
    (plainClosing : hasSurrogate closing = false)
    (inside : texts.any hasSurrogate = false) :
    hasSurrogate (opening ++ ", ".intercalate texts ++ closing) = false := by
  have separator : hasSurrogate ", " = false := by decide
  rw [hasSurrogate_append, hasSurrogate_append, plain, plainClosing,
    hasSurrogate_intercalate separator, inside]
  rfl

namespace Value

mutual

/-- A value in full has no surrogates, even if a text in it has. -/
theorem hasSurrogate_display : ∀ value : Value, ∀ text,
    value.display = .ok text → hasSurrogate text = false
  | .null => by
      rintro _ ⟨⟩
      decide +kernel
  | .bool value => by
      rintro _ ⟨⟩
      cases value <;> decide +kernel
  | .int _ => fun _ ok => hasSurrogate_wholeText ok
  | .float x => by
      rintro _ ⟨⟩
      exact hasSurrogate_doubleText x
  | .text content => by
      rintro _ ⟨⟩
      exact hasSurrogate_quoted content
  | .bytes octets => by
      rintro _ ⟨⟩
      exact hasSurrogate_quotedBytes octets
  | .date day => by
      rintro _ ⟨⟩
      exact hasSurrogate_dateDisplay day
  | .timestamp moment => by
      rintro _ ⟨⟩
      exact hasSurrogate_timestampDisplay moment
  | .list items => by
      intro _ ok
      obtain ⟨texts, shown, made⟩ := exists_of_bind_eq_ok ok
      cases made
      exact hasSurrogate_enclosed (by decide) (by decide)
        (any_displayList items texts shown)
  | .tuple items => by
      intro _ ok
      obtain ⟨texts, shown, made⟩ := exists_of_bind_eq_ok ok
      have plain := any_displayList items texts shown
      split at made
      · next single =>
        cases made
        rw [List.any_cons, List.any_nil, Bool.or_false] at plain
        rw [hasSurrogate_append, hasSurrogate_append, plain]
        decide
      · cases made
        exact hasSurrogate_enclosed (by decide) (by decide) plain
  | .set members => by
      intro _ ok
      obtain ⟨texts, shown, made⟩ := exists_of_bind_eq_ok ok
      split at made
      · cases made
        decide
      · cases made
        exact hasSurrogate_enclosed (by decide) (by decide)
          (any_displayList members texts shown)
  | .mapping entries => by
      intro _ ok
      obtain ⟨texts, shown, made⟩ := exists_of_bind_eq_ok ok
      cases made
      exact hasSurrogate_enclosed (by decide) (by decide)
        (any_displayEntries entries texts shown)

theorem any_displayList : ∀ items : List Value, ∀ texts,
    displayList items = .ok texts → texts.any hasSurrogate = false
  | [] => by
      rintro _ ⟨⟩
      rfl
  | item :: items => by
      intro _ ok
      obtain ⟨text, shown, ok⟩ := exists_of_bind_eq_ok ok
      obtain ⟨texts, shownRest, made⟩ := exists_of_bind_eq_ok ok
      cases made
      rw [List.any_cons, hasSurrogate_display item text shown,
        any_displayList items texts shownRest]
      rfl

theorem any_displayEntries : ∀ entries : List (Value × Value), ∀ texts,
    displayEntries entries = .ok texts → texts.any hasSurrogate = false
  | [] => by
      rintro _ ⟨⟩
      rfl
  | (key, value) :: entries => by
      intro _ ok
      obtain ⟨keyText, shownKey, ok⟩ := exists_of_bind_eq_ok ok
      obtain ⟨text, shown, ok⟩ := exists_of_bind_eq_ok ok
      obtain ⟨texts, shownRest, made⟩ := exists_of_bind_eq_ok ok
      have separator : hasSurrogate ": " = false := by decide
      cases made
      rw [List.any_cons, hasSurrogate_append, hasSurrogate_append,
        hasSurrogate_display key keyText shownKey,
        hasSurrogate_display value text shown, separator,
        any_displayEntries entries texts shownRest]
      rfl

end

/-- The text of a key that can be encoded can be encoded. -/
theorem hasSurrogate_keyText {key : Value} {text : String}
    (encodable : key.Everywhere IsEncodable) (ok : key.keyText = .ok text) :
    hasSurrogate text = false := by
  cases key with
  | text content =>
      cases ok
      exact encodable
  | date day =>
      have isText : day.text = text := Except.ok.inj ok
      rw [← isText, hasSurrogate_date]
  | timestamp moment =>
      have isText : moment.textWith " " Timestamp.offsetText = text :=
        Except.ok.inj ok
      rw [← isText]
      exact hasSurrogate_textWith (by decide) hasSurrogate_offsetText moment
  | _ => exact hasSurrogate_display _ _ ok

end Value

end PaneLayout
