import PaneLayout.Json.Text
import PaneLayout.Proofs.Number.Numeral
import PaneLayout.Proofs.Text.Surrogate

/-!
# Tokens of a JSON text

Strings end at the first quote that is not escaped, and numbers at the first
character that cannot be part of one.  So two texts that begin with a string, or
with a number, and go on in any way that JSON allows are equal only if they
begin with the same token.
-/

namespace PaneLayout.Json

/-! ### Strings -/

/-- The characters that stand for one character inside a JSON string. -/
def charCode (c : Char) : List Char :=
  if c = '"' then ['\\', '"']
  else if c = '\\' then ['\\', '\\']
  else if c = '\n' then ['\\', 'n']
  else if c = '\r' then ['\\', 'r']
  else if c = '\t' then ['\\', 't']
  else if c.toNat = 8 then ['\\', 'b']
  else if c.toNat = 12 then ['\\', 'f']
  else if c.toNat < 0x20 then
    let digits := Nat.toDigits 16 c.toNat
    '\\' :: 'u' :: (List.replicate (4 - digits.length) '0' ++ digits)
  else [c]

theorem charText_toList (c : Char) :
    (charText false c).toList = charCode c := by
  unfold charText charCode
  simp only [Bool.false_and, Bool.false_eq_true, if_false,
    apply_ite String.toList]
  simp [unitEscape, hexText]

/-- The characters that are escaped. -/
def escapedChars : List Char :=
  '"' :: '\\' :: (List.range 32).map Char.ofNat

theorem charCode_plain {c : Char} (plain : c ∉ escapedChars) :
    charCode c = [c] := by
  have printable : 32 ≤ c.toNat := by
    by_contra control
    refine plain (List.mem_cons_of_mem _ (List.mem_cons_of_mem _ ?_))
    rw [← c.ofNat_toNat]
    exact List.mem_map_of_mem (List.mem_range.mpr (not_le.mp control))
  have notEscaped (other : Char) (escaped : other ∈ escapedChars) :
      c ≠ other := by
    rintro rfl
    exact plain escaped
  unfold charCode
  rw [if_neg (notEscaped _ (by decide)), if_neg (notEscaped _ (by decide)),
    if_neg (notEscaped _ (by decide)), if_neg (notEscaped _ (by decide)),
    if_neg (notEscaped _ (by decide)), if_neg (by omega), if_neg (by omega),
    if_neg (by omega)]

theorem charCode_escaped {c : Char} (escaped : c ∈ escapedChars) :
    (charCode c).head? = some '\\' ∧ 1 < (charCode c).length := by
  have table : (escapedChars.all fun c =>
      (charCode c).head? == some '\\' && 1 < (charCode c).length) = true := by
    decide +kernel
  simpa using List.all_eq_true.mp table c escaped

theorem escaped_prefix {c d : Char} (escaped : c ∈ escapedChars)
    (other : d ∈ escapedChars) (isPrefix : charCode c <+: charCode d) :
    c = d := by
  have table : (escapedChars.all fun c => escapedChars.all fun d =>
      !(charCode c).isPrefixOf (charCode d) || c == d) = true := by
    decide +kernel
  have entry := List.all_eq_true.mp (List.all_eq_true.mp table c escaped) d
    other
  rw [List.isPrefixOf_iff_prefix.mpr isPrefix] at entry
  simpa using entry

/-- The codes of characters are a prefix code. -/
theorem eq_of_startsWith {c d : Char}
    (isPrefix : charCode c <+: charCode d) : c = d := by
  by_cases escaped : c ∈ escapedChars <;> by_cases other : d ∈ escapedChars
  · exact escaped_prefix escaped other isPrefix
  · have long := isPrefix.length_le
    rw [charCode_plain other] at long
    exact absurd long (not_le.mpr (charCode_escaped escaped).2)
  · obtain ⟨rest, isCode⟩ := isPrefix
    have first := (charCode_escaped other).1
    rw [← isCode, charCode_plain escaped] at first
    cases first
    exact absurd (by decide) escaped
  · rw [charCode_plain escaped, charCode_plain other] at isPrefix
    simpa using isPrefix

theorem charCode_cancel {c d : Char} {rest other : List Char}
    (same : charCode c ++ rest = charCode d ++ other) :
    c = d ∧ rest = other := by
  have eq : c = d := by
    rcases List.prefix_or_prefix_of_prefix ⟨rest, same⟩ ⟨other, rfl⟩ with
      first | second
    · exact eq_of_startsWith first
    · exact (eq_of_startsWith second).symm
  rw [eq] at same
  exact ⟨eq, List.append_cancel_left same⟩

theorem charCode_ne_quote (c : Char) (rest other : List Char) :
    charCode c ++ rest ≠ '"' :: other := by
  intro same
  by_cases escaped : c ∈ escapedChars
  · obtain ⟨more, isCode⟩ :=
      List.head?_eq_some_iff.mp (charCode_escaped escaped).1
    rw [isCode] at same
    cases same
  · rw [charCode_plain escaped] at same
    cases same
    exact escaped (by decide)

/-! ### Escapes of code units -/

/-- The value of a hexadecimal digit. -/
def hexDigitValue (c : Char) : Nat :=
  if c.toNat < 'a'.toNat then c.toNat - '0'.toNat else c.toNat - 'a'.toNat + 10

/-- The number that hexadecimal digits stand for. -/
def hexValue (digits : List Char) : Nat :=
  digits.foldl (fun value c => 16 * value + hexDigitValue c) 0

theorem hexDigitValue_digitChar {digit : Nat} (small : digit < 16) :
    hexDigitValue digit.digitChar = digit := by
  decide +revert

theorem hexValue_toDigits (n : Nat) : hexValue (Nat.toDigits 16 n) = n := by
  induction n using Nat.strongRecOn with
  | ind n induction =>
      rw [Nat.toDigits_eq_if (by decide)]
      split
      · next small =>
        rw [hexValue, List.foldl_cons, List.foldl_nil,
          hexDigitValue_digitChar small, Nat.mul_zero, Nat.zero_add]
      · next large =>
        have earlier := induction (n / 16) (by omega)
        have last := hexDigitValue_digitChar (Nat.mod_lt n (by decide : 0 < 16))
        rw [hexValue] at earlier
        rw [hexValue, List.foldl_append, earlier, List.foldl_cons,
          List.foldl_nil, last, Nat.div_add_mod]

/-- Zeros before a number do not change it. -/
theorem hexValue_hexText (width n : Nat) :
    hexValue (hexText width n).toList = n := by
  rw [hexText, String.toList_ofList, hexValue, List.foldl_append]
  generalize width - (Nat.toDigits 16 n).length = zeros
  have none : (List.replicate zeros '0').foldl
      (fun value c => 16 * value + hexDigitValue c) 0 = 0 := by
    induction zeros with
    | zero => rfl
    | succ zeros induction => exact induction
  rw [none]
  exact hexValue_toDigits n

theorem length_hexText {n : Nat} (small : n < 0x10000) :
    (hexText 4 n).toList.length = 4 := by
  have short : (Nat.toDigits 16 n).length ≤ 4 :=
    (Nat.length_toDigits_le_iff (by decide) (by decide)).mpr small
  rw [hexText, String.toList_ofList, List.length_append, List.length_replicate]
  omega

theorem unitEscape_toList (unit : Nat) :
    (unitEscape unit).toList = '\\' :: 'u' :: (hexText 4 unit).toList := by
  rw [unitEscape, String.toList_append]
  rfl

/-- Escapes of code units are told from what follows them. -/
theorem unitEscape_cancel {unit other : Nat} (small : unit < 0x10000)
    (otherSmall : other < 0x10000) {rest otherRest : List Char}
    (same : (unitEscape unit).toList ++ rest =
      (unitEscape other).toList ++ otherRest) :
    unit = other ∧ rest = otherRest := by
  rw [unitEscape_toList, unitEscape_toList] at same
  have digits := List.tail_eq_of_cons_eq (List.tail_eq_of_cons_eq same)
  obtain ⟨sameDigits, sameRest⟩ := List.append_inj digits
    ((length_hexText small).trans (length_hexText otherSmall).symm)
  refine ⟨?_, sameRest⟩
  rw [← hexValue_hexText 4 unit, sameDigits, hexValue_hexText]

/-- A character has one code unit, or it has the first and the second of a
pair. -/
theorem unicodeEscape_eq (c : Char) :
    (codePoint c < 0x10000 ∧ unicodeEscape c = unitEscape (codePoint c)) ∨
      ∃ first second, (0xD800 ≤ first ∧ first < 0xDC00) ∧
        (0xDC00 ≤ second ∧ second < 0xE000) ∧
        unicodeEscape c = unitEscape first ++ unitEscape second ∧
        codePoint c = 0x10000 + (first - 0xD800) * 0x400 +
          (second - 0xDC00) := by
  have limit := codePoint_lt c
  unfold unicodeEscape
  dsimp only
  split
  · next single => exact .inl ⟨single, rfl⟩
  · exact .inr ⟨_, _, by omega, by omega, rfl, by omega⟩

/-- The first of two pieces that continue to one text is the other one, or it
is a surrogate that opens a pair while the other is the whole pair. -/
inductive SameEscape (c d : Char) (rest other : List Char) : Prop where
  | same : c = d → rest = other → SameEscape c d rest other
  | opens (unit : Nat) : opensPair c → 0xDC00 ≤ unit ∧ unit < 0xE000 →
      rest = (unitEscape unit).toList ++ other → SameEscape c d rest other
  | opened (unit : Nat) : opensPair d → 0xDC00 ≤ unit ∧ unit < 0xE000 →
      other = (unitEscape unit).toList ++ rest → SameEscape c d rest other

/-- Escapes of characters are told from what follows them, except that a
surrogate begins like a pair. -/
theorem unicodeEscape_cancel {c d : Char} {rest other : List Char}
    (same : (unicodeEscape c).toList ++ rest =
      (unicodeEscape d).toList ++ other) : SameEscape c d rest other := by
  rcases unicodeEscape_eq c with ⟨single, escape⟩ |
      ⟨first, second, opens, closes, escape, code⟩ <;>
    rcases unicodeEscape_eq d with ⟨otherSingle, otherEscape⟩ |
      ⟨otherFirst, otherSecond, otherOpens, otherCloses, otherEscape,
        otherCode⟩ <;>
    rw [escape, otherEscape] at same
  · obtain ⟨sameUnit, sameRest⟩ := unitEscape_cancel single otherSingle same
    exact .same (codePoint_injective sameUnit) sameRest
  · rw [String.toList_append, List.append_assoc] at same
    obtain ⟨sameUnit, sameRest⟩ := unitEscape_cancel single (by omega) same
    exact .opens otherSecond (by rwa [opensPair, sameUnit]) otherCloses
      sameRest
  · rw [String.toList_append, List.append_assoc] at same
    obtain ⟨sameUnit, sameRest⟩ :=
      unitEscape_cancel (by omega) otherSingle same
    exact .opened second (by rwa [opensPair, ← sameUnit]) closes
      sameRest.symm
  · rw [String.toList_append, String.toList_append, List.append_assoc,
      List.append_assoc] at same
    obtain ⟨sameFirst, later⟩ :=
      unitEscape_cancel (by omega) (by omega) same
    obtain ⟨sameSecond, sameRest⟩ :=
      unitEscape_cancel (by omega) (by omega) later
    exact .same (codePoint_injective (by omega)) sameRest

/-- What begins like the second code unit of a pair is a surrogate that closes
one. -/
theorem closesPair_of_starts {c : Char} {unit : Nat}
    (closes : 0xDC00 ≤ unit ∧ unit < 0xE000) {rest other : List Char}
    (same : (unicodeEscape c).toList ++ rest =
      (unitEscape unit).toList ++ other) : closesPair c := by
  rcases unicodeEscape_eq c with ⟨single, escape⟩ |
      ⟨first, second, opens, _, escape, _⟩
  · rw [escape] at same
    have sameUnit := (unitEscape_cancel single (by omega) same).1
    rwa [closesPair, sameUnit]
  · rw [escape, String.toList_append, List.append_assoc] at same
    have sameUnit := (unitEscape_cancel (by omega) (by omega) same).1
    omega

theorem unicodeEscape_starts {c : Char} (large : 0x7F ≤ c.toNat) :
    ∃ unit more, 0x7F ≤ unit ∧ unit < 0x10000 ∧
      (unicodeEscape c).toList = (unitEscape unit).toList ++ more := by
  rcases unicodeEscape_eq c with ⟨single, escape⟩ |
      ⟨first, second, opens, _, escape, _⟩
  · refine ⟨codePoint c, [], ?_, single, ?_⟩
    · cases stands : isSurrogate c with
      | false => rwa [codePoint_eq stands]
      | true =>
          have between := isSurrogate_iff_codePoint.mp stands
          omega
    · rw [escape, List.append_nil]
  · refine ⟨first, (unitEscape second).toList, by omega, by omega, ?_⟩
    rw [escape, String.toList_append]

/-- Only the codes of control characters begin like the escape of a code
unit. -/
theorem charCode_unit (c : Char) :
    (c.toNat < 0x20 ∧ charCode c = (unitEscape c.toNat).toList) ∨
      ∀ rest other, charCode c ++ rest ≠ '\\' :: 'u' :: other := by
  by_cases escaped : c ∈ escapedChars
  · have table : (escapedChars.all fun c =>
        c.toNat < 0x20 && charCode c == (unitEscape c.toNat).toList ||
          (1 < (charCode c).length && (charCode c)[1]? != some 'u')) = true := by
      decide +kernel
    rcases Bool.or_eq_true_iff.mp (List.all_eq_true.mp table c escaped) with
      isUnit | otherwise
    · refine .inl ?_
      simpa using isUnit
    · refine .inr fun rest other same => ?_
      rw [Bool.and_eq_true, decide_eq_true_eq, bne_iff_ne] at otherwise
      refine otherwise.2 ?_
      rw [← List.getElem?_append_left otherwise.1, same]
      rfl
  · refine .inr fun rest other same => ?_
    rw [charCode_plain escaped] at same
    cases same
    exact escaped (by decide)

/-- The characters that stand for one character inside a string of ASCII. -/
theorem charText_ascii_toList (c : Char) :
    (charText true c).toList =
      if 0x7F ≤ c.toNat then (unicodeEscape c).toList else charCode c := by
  split
  · next large =>
    have notSmall (other : Char) (small : other.toNat < 0x7F) : c ≠ other := by
      rintro rfl
      omega
    unfold charText
    rw [if_neg (notSmall _ (by decide)), if_neg (notSmall _ (by decide)),
      if_neg (notSmall _ (by decide)), if_neg (notSmall _ (by decide)),
      if_neg (notSmall _ (by decide)), if_neg (by omega), if_neg (by omega),
      if_neg (by omega), if_pos (by simpa using large)]
  · next small =>
    rw [← charText_toList]
    unfold charText
    simp only [small, decide_false, Bool.and_false]

/-- The escape of a code unit that is no control character begins like the code
of no character. -/
theorem unitEscape_ne_charCode {unit : Nat} (least : 0x7F ≤ unit)
    (small : unit < 0x10000) (d : Char) (rest other : List Char) :
    (unitEscape unit).toList ++ rest ≠ charCode d ++ other := by
  intro same
  rcases charCode_unit d with ⟨control, isUnit⟩ | notUnit
  · rw [isUnit] at same
    have sameUnit := (unitEscape_cancel small (by omega) same).1
    omega
  · rw [unitEscape_toList] at same
    exact notUnit _ _ same.symm

/-- The escape of a character is the code of no other one. -/
theorem unicodeEscape_ne_charCode {c : Char} (large : 0x7F ≤ c.toNat)
    (d : Char) (rest other : List Char) :
    (unicodeEscape c).toList ++ rest ≠ charCode d ++ other := by
  obtain ⟨unit, more, least, small, starts⟩ := unicodeEscape_starts large
  rw [starts, List.append_assoc]
  exact unitEscape_ne_charCode least small d _ _

theorem charText_ascii_cancel {c d : Char} {rest other : List Char}
    (same : (charText true c).toList ++ rest =
      (charText true d).toList ++ other) : SameEscape c d rest other := by
  rw [charText_ascii_toList, charText_ascii_toList] at same
  split at same <;> split at same
  · exact unicodeEscape_cancel same
  · next large _ => exact absurd same (unicodeEscape_ne_charCode large _ _ _)
  · next _ large =>
    exact absurd same.symm (unicodeEscape_ne_charCode large _ _ _)
  · obtain ⟨sameChar, sameRest⟩ := charCode_cancel same
    exact .same sameChar sameRest

theorem charText_ne_quote (asciiOnly : Bool) (c : Char)
    (rest other : List Char) :
    (charText asciiOnly c).toList ++ rest ≠ '"' :: other := by
  cases asciiOnly with
  | false =>
      rw [charText_toList]
      exact charCode_ne_quote c rest other
  | true =>
      rw [charText_ascii_toList]
      split
      · next large =>
        obtain ⟨_, _, _, _, starts⟩ := unicodeEscape_starts large
        rw [starts, unitEscape_toList]
        exact fun same => nomatch same
      · exact charCode_ne_quote c rest other

/-! ### Whole strings -/

theorem stringText_toList (asciiOnly : Bool) (text : String) :
    (stringText asciiOnly text).toList = '"' ::
      (text.toList.flatMap (fun c => (charText asciiOnly c).toList) ++
        ['"']) := by
  rw [stringText, String.toList_append, String.toList_append,
    String.toList_join, List.flatMap_map]
  rfl

section Characters

variable {text other rest otherRest : List Char}

/-- The characters of a string up to its last quote. -/
def quotedCode (asciiOnly : Bool) (text rest : List Char) : List Char :=
  text.flatMap (fun c => (charText asciiOnly c).toList) ++ '"' :: rest

theorem quotedCode_cons (asciiOnly : Bool) (c : Char)
    (text rest : List Char) :
    quotedCode asciiOnly (c :: text) rest =
      (charText asciiOnly c).toList ++ quotedCode asciiOnly text rest := by
  rw [quotedCode, quotedCode, List.flatMap_cons, List.append_assoc]

/-- A string goes on with the second code unit of a pair only if its next
character is one. -/
theorem exists_closing {unit : Nat} (closes : 0xDC00 ≤ unit ∧ unit < 0xE000)
    (same : quotedCode true text rest = (unitEscape unit).toList ++ other) :
    ∃ c ∈ text.head?, closesPair c := by
  cases text with
  | nil =>
      rw [unitEscape_toList] at same
      cases same
  | cons c text =>
      refine ⟨c, rfl, ?_⟩
      rw [quotedCode_cons, charText_ascii_toList] at same
      split at same
      · exact closesPair_of_starts closes same
      · exact absurd same.symm
          (unitEscape_ne_charCode (by omega) (by omega) _ _ _)

theorem not_opens_of_isUnpaired {c : Char} {unit : Nat}
    (unpaired : IsUnpaired (c :: text)) (opens : opensPair c)
    (closes : 0xDC00 ≤ unit ∧ unit < 0xE000) :
    quotedCode true text rest ≠ (unitEscape unit).toList ++ other := by
  intro same
  obtain ⟨next, isNext, closesNext⟩ := exists_closing closes same
  exact (List.isChain_cons.mp unpaired).1 next isNext ⟨opens, closesNext⟩

/-- Strings are told from what follows them, by their characters one after the
other.  Within ASCII that takes surrogates which make no pairs. -/
theorem quotedCode_cancel {asciiOnly : Bool}
    (unpaired : asciiOnly = true → IsUnpaired text)
    (otherUnpaired : asciiOnly = true → IsUnpaired other)
    (same : quotedCode asciiOnly text rest =
      quotedCode asciiOnly other otherRest) :
    text = other ∧ rest = otherRest := by
  induction text generalizing other with
  | nil =>
      cases other with
      | nil => exact ⟨rfl, List.tail_eq_of_cons_eq same⟩
      | cons d other =>
          rw [quotedCode_cons] at same
          exact absurd same.symm (charText_ne_quote asciiOnly d _ _)
  | cons c text induction =>
      rw [quotedCode_cons] at same
      cases other with
      | nil => exact absurd same (charText_ne_quote asciiOnly c _ _)
      | cons d other =>
          rw [quotedCode_cons] at same
          have later : quotedCode asciiOnly text rest =
              quotedCode asciiOnly other otherRest →
                text = other ∧ rest = otherRest :=
            induction
              (fun ascii => (List.isChain_cons.mp (unpaired ascii)).2)
              (fun ascii => (List.isChain_cons.mp (otherUnpaired ascii)).2)
          cases asciiOnly with
          | false =>
              rw [charText_toList, charText_toList] at same
              obtain ⟨rfl, sameLater⟩ := charCode_cancel same
              obtain ⟨rfl, sameRest⟩ := later sameLater
              exact ⟨rfl, sameRest⟩
          | true =>
              cases charText_ascii_cancel same with
              | same sameChar sameLater =>
                  obtain ⟨rfl, sameRest⟩ := later sameLater
                  exact ⟨congrArg (· :: text) sameChar, sameRest⟩
              | opens unit opens closes starts =>
                  exact absurd starts (not_opens_of_isUnpaired
                    (unpaired rfl) opens closes)
              | opened unit opens closes starts =>
                  exact absurd starts (not_opens_of_isUnpaired
                    (otherUnpaired rfl) opens closes)

end Characters

/-- A string is told from what follows it. -/
theorem stringText_cancel {asciiOnly : Bool} {text other : String}
    {rest otherRest : List Char}
    (unpaired : asciiOnly = true → IsUnpaired text.toList)
    (otherUnpaired : asciiOnly = true → IsUnpaired other.toList)
    (same : (stringText asciiOnly text).toList ++ rest =
      (stringText asciiOnly other).toList ++ otherRest) :
    text = other ∧ rest = otherRest := by
  rw [stringText_toList, stringText_toList, List.cons_append, List.cons_append,
    List.append_assoc, List.append_assoc] at same
  obtain ⟨sameText, sameRest⟩ := quotedCode_cancel unpaired otherUnpaired
    (List.tail_eq_of_cons_eq same)
  exact ⟨String.toList_inj.mp sameText, sameRest⟩

/-! ### Numbers -/

open Shortest Float.Model

theorem toString_characters (n : ℤ) :
    ∀ c ∈ (toString n).toList, c.isDigit = true ∨ c = '-' := by
  intro c member
  rw [Int.toString_eq_repr, Int.repr_eq_if] at member
  split at member
  · exact .inl (toString_digits member)
  · rw [String.toList_append] at member
    rcases List.mem_append.mp member with sign | digit
    · exact .inr (List.mem_singleton.mp sign)
    · exact .inl (toString_digits digit)

/-- The doubles that are not finite, with the words that they are written as. -/
def words : List (UnpackedFloat × List Char) :=
  [(.infinity .positive, ['I', 'n', 'f', 'i', 'n', 'i', 't', 'y']),
    (.infinity .negative, ['-', 'I', 'n', 'f', 'i', 'n', 'i', 't', 'y']),
    (.notANumber, ['N', 'a', 'N'])]

theorem exists_word {x : Float} (notFinite : x.isFinite ≠ true) :
    ∃ entry ∈ words, x.toModel.unpack = entry.1 ∧
      (floatLayout.text x).toList = entry.2 := by
  have isFinite : x.isFinite = x.toModel.unpack.isFinite := rfl
  rw [isFinite] at notFinite
  unfold Layout.text
  cases unpacked : x.toModel.unpack with
  | infinity sign =>
      cases sign with
      | positive =>
          exact ⟨_, List.mem_cons_self, rfl, String.toList_ofList⟩
      | negative =>
          exact ⟨_, List.mem_cons_of_mem _ List.mem_cons_self, rfl,
            String.toList_ofList⟩
  | notANumber =>
      exact ⟨_, List.mem_cons_of_mem _ (List.mem_cons_of_mem _
        List.mem_cons_self), rfl, String.toList_ofList⟩
  | zero =>
      rw [unpacked] at notFinite
      exact absurd rfl notFinite
  | finite =>
      rw [unpacked] at notFinite
      exact absurd rfl notFinite

/-- The characters of numbers, and of the words for doubles that are not
finite. -/
def isNumberChar (c : Char) : Bool :=
  isNumeralChar c || c.isAlpha

/-- A word has a letter that is in no numeral. -/
theorem words_characters : ∀ entry ∈ words,
    entry.2.all isNumberChar = true ∧
      entry.2.any (fun c => !c.isDigit && c != '-') = true ∧
      entry.2.all isNumeralChar = false := by
  decide +kernel

/-- The text of a double is told from those of whole numbers. -/
theorem float_characters (x : Float) :
    (∀ c ∈ (floatLayout.text x).toList, isNumberChar c = true) ∧
      ∃ c ∈ (floatLayout.text x).toList, c.isDigit = false ∧ c ≠ '-' := by
  by_cases finite : x.isFinite = true
  · obtain ⟨areNumeral, marked⟩ := text_characters floatLayout finite
    constructor
    · intro c member
      rw [isNumberChar, areNumeral c member, Bool.true_or]
    · rcases marked with point | power
      · exact ⟨_, point, by decide⟩
      · exact ⟨_, power, by decide⟩
  · obtain ⟨entry, isEntry, _, isText⟩ := exists_word finite
    obtain ⟨areNumber, marked, _⟩ := words_characters entry isEntry
    rw [isText]
    exact ⟨List.all_eq_true.mp areNumber, by simpa using marked⟩

/-- The text of a double determines it. -/
theorem floatText_injective {x y : Float}
    (same : floatLayout.text x = floatLayout.text y) : x = y := by
  have notWord {x y : Float} (finite : x.isFinite = true)
      (notFinite : y.isFinite ≠ true) :
      floatLayout.text x ≠ floatLayout.text y := by
    intro same
    obtain ⟨entry, isEntry, _, isText⟩ := exists_word notFinite
    have notNumeral := (words_characters entry isEntry).2.2
    rw [← isText, ← same, List.all_eq_true.mpr
      (text_characters floatLayout finite).1] at notNumeral
    cases notNumeral
  by_cases finite : x.isFinite = true <;>
    by_cases otherFinite : y.isFinite = true
  · exact text_injective floatLayout finite otherFinite same
  · exact absurd same (notWord finite otherFinite)
  · exact absurd same.symm (notWord otherFinite finite)
  · obtain ⟨entry, isEntry, unpacked, isText⟩ := exists_word finite
    obtain ⟨other, isOther, otherUnpacked, isOtherText⟩ :=
      exists_word otherFinite
    have unique : (words.map Prod.snd).Nodup := by decide +kernel
    have sameEntry := List.inj_on_of_nodup_map unique isEntry isOther
      (by rw [← isText, ← isOtherText, same])
    exact eq_of_unpack (by rw [unpacked, otherUnpacked, sameEntry])

/-- What ends a JSON value, unless it ends the text: a comma or a bracket. -/
def Ends (rest : List Char) : Prop :=
  ∀ c ∈ rest.head?, c = ',' ∨ c = ']' ∨ c = '\x7d'

/-- A number is told from what follows it. -/
theorem number_cancel {text other rest otherRest : List Char}
    (isNumber : ∀ c ∈ text, isNumberChar c = true)
    (isOther : ∀ c ∈ other, isNumberChar c = true)
    (ends : Ends rest) (otherEnds : Ends otherRest)
    (same : text ++ rest = other ++ otherRest) :
    text = other ∧ rest = otherRest := by
  have stops {rest : List Char} (ends : Ends rest) :
      ∀ c ∈ rest.head?, isNumberChar c = false := by
    intro c isHead
    rcases ends c isHead with rfl | rfl | rfl <;> decide
  have run := RatioEntry.takeWhile_run isNumber (stops ends)
  have otherRun := RatioEntry.takeWhile_run isOther (stops otherEnds)
  rw [same] at run
  exact ⟨run.1.symm.trans otherRun.1, run.2.symm.trans otherRun.2⟩

end PaneLayout.Json
