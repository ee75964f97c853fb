import PaneLayout.Text.ShellWord
import Mathlib.Data.List.Chain

/-!
# Double-quoted shell words

The values typed after `cd` and `export` stand between double quotes, with their
own double quotes escaped.  A shell that reads such a word back gets the value
itself as long as no backslash of the value escapes what comes after it.
Backslashes are not escaped, so one before a quote, before another backslash, or
at the end of the value changes the word: it may end early, or not at all.
-/

namespace PaneLayout.DoubleQuoted

/-- The characters that begin an expansion between double quotes: the dollar
sign and the backquote. -/
def expanding : List Char :=
  ['$', '\x60']

/-- The characters that a backslash makes literal between double quotes. -/
def escapable : List Char :=
  '"' :: '\\' :: expanding

/-- A word with one more character in front, and what follows the word. -/
def prepend (c : Char) :
    Option (List Char × List Char) → Option (List Char × List Char) :=
  Option.map fun (word, following) => (c :: word, following)

/-- The rest of a double-quoted word, and what follows its closing quote.  There
is none if the word does not end, or if it expands a parameter or a command. -/
def rest? : (afterBackslash : Bool) → List Char →
    Option (List Char × List Char)
  | _, [] => none
  | false, c :: text =>
    if c = '"' then some ([], text)
    else if c = '\\' then rest? true text
    else if c ∈ expanding then none
    else prepend c (rest? false text)
  | true, c :: text =>
    if c ∈ escapable then prepend c (rest? false text)
    else if c = '\n' then rest? false text
    else prepend '\\' (prepend c (rest? false text))

/-- The double-quoted word at the beginning of a line, and what follows it. -/
def word? (line : String) : Option (String × String) :=
  match line.toList with
  | '"' :: text =>
    (rest? false text).map fun (word, following) =>
      (String.ofList word, String.ofList following)
  | _ => none

/-- A value that means itself between double quotes once its own quotes are
escaped: nothing in it is expanded, and no backslash escapes the character after
it.  The character after the last one is the closing quote. -/
def IsLiteral (value : List Char) : Prop :=
  (∀ c ∈ value, c ∉ expanding) ∧
    (value ++ ['"']).IsChain fun c next =>
      c = '\\' → next ∉ '\n' :: escapable

instance (value : List Char) : Decidable (IsLiteral value) :=
  -- Characters are looked up in the value, and not the other way round.
  have := List.decidableBAll (fun c => c ∉ expanding) value
  inferInstanceAs (Decidable (_ ∧ _))

/-- A value with its double quotes escaped. -/
def escaped (value : List Char) : List Char :=
  value.flatMap fun c => if c = '"' then ['\\', '"'] else [c]

theorem escapeDoubleQuotes_toList (value : String) :
    (escapeDoubleQuotes value).toList = escaped value.toList := by
  simp [escapeDoubleQuotes, escaped]

theorem escaped_quote (value : List Char) :
    escaped ('"' :: value) = '\\' :: '"' :: escaped value := rfl

theorem escaped_cons {c : Char} (notQuote : c ≠ '"') (value : List Char) :
    escaped (c :: value) = c :: escaped value := by
  simp [escaped, notQuote]

@[simp]
theorem prepend_eq_some {c : Char} {word following : List Char}
    {read : Option (List Char × List Char)} :
    prepend c read = some (word, following) ↔
      ∃ tail, read = some (tail, following) ∧ c :: tail = word := by
  simp [prepend]

/-! ### Literal values -/

theorem isLiteral_cons {c : Char} (notBackslash : c ≠ '\\')
    (value : List Char) :
    IsLiteral (c :: value) ↔ c ∉ expanding ∧ IsLiteral value := by
  have chain : ((c :: value) ++ ['"']).IsChain
        (fun c next => c = '\\' → next ∉ '\n' :: escapable) ↔
      (value ++ ['"']).IsChain
        (fun c next => c = '\\' → next ∉ '\n' :: escapable) := by
    cases value <;> simp [notBackslash]
  rw [IsLiteral, IsLiteral, chain, List.forall_mem_cons, and_assoc]

theorem isLiteral_backslash (next : Char) (value : List Char) :
    IsLiteral ('\\' :: next :: value) ↔
      next ∉ '\n' :: escapable ∧ IsLiteral (next :: value) := by
  have notExpanding : '\\' ∉ expanding := by decide
  simp only [IsLiteral, List.cons_append, List.isChain_cons_cons,
    List.forall_mem_cons, notExpanding, not_false_eq_true, true_and,
    forall_const, and_left_comm]

/-! ### Reading a value back -/

/-- Each character of a value gives at most one of the word that is read, and a
backslash before the value one more. -/
theorem length_le_of_rest? {value word following : List Char}
    {afterBackslash : Bool}
    (read : rest? afterBackslash (escaped value ++ ['"']) =
      some (word, following)) :
    word.length ≤ value.length + afterBackslash.toNat := by
  induction value generalizing afterBackslash word with
  | nil =>
      cases afterBackslash with
      | false => simp_all [escaped, rest?]
      | true => simp [escaped, rest?, escapable, prepend] at read
  | cons c value ih =>
      by_cases isQuote : c = '"'
      · subst isQuote
        rw [escaped_quote] at read
        cases afterBackslash with
        | false =>
            obtain ⟨tail, readTail, rfl⟩ := prepend_eq_some.mp read
            simpa using ih readTail
        | true =>
            obtain ⟨rfl, -⟩ : ['\\'] = word ∧ _ := by
              simpa [rest?, escapable, prepend] using read
            simp
      · rw [escaped_cons isQuote, List.cons_append] at read
        cases afterBackslash with
        | false =>
            rw [rest?, if_neg isQuote] at read
            split_ifs at read
            · simpa using ih read
            · obtain ⟨tail, readTail, rfl⟩ := prepend_eq_some.mp read
              simpa using ih readTail
        | true =>
            rw [rest?] at read
            split_ifs at read
            · obtain ⟨tail, readTail, rfl⟩ := prepend_eq_some.mp read
              simpa using Nat.le_succ_of_le (ih readTail)
            · simpa using Nat.le_add_right_of_le (k := 2) (ih read)
            · obtain ⟨_, readNext, rfl⟩ := prepend_eq_some.mp read
              obtain ⟨tail, readTail, rfl⟩ := prepend_eq_some.mp readNext
              simpa using ih readTail

theorem rest?_ne_of_longer {value word following : List Char}
    (longer : value.length < word.length) :
    rest? false (escaped value ++ ['"']) ≠ some (word, following) := by
  intro read
  exact absurd (length_le_of_rest? read) (by simpa using longer)

/-- After a backslash a value is read as it stands exactly if the backslash does
not escape its first character. -/
theorem rest?_backslash_iff (next : Char) (value : List Char)
    (readBack : rest? false (escaped (next :: value) ++ ['"']) =
        some (next :: value, []) ↔ IsLiteral (next :: value)) :
    rest? true (escaped (next :: value) ++ ['"']) =
        some ('\\' :: next :: value, []) ↔
      IsLiteral ('\\' :: next :: value) := by
  rw [isLiteral_backslash, ← readBack]
  by_cases isQuote : next = '"'
  · subst isQuote
    simp [escaped_quote, rest?, escapable, prepend]
  rw [escaped_cons isQuote, List.cons_append, rest?, rest?, if_neg isQuote]
  by_cases isNewline : next = '\n'
  · subst isNewline
    have tooLong : rest? false (escaped value ++ ['"']) ≠
        some ('\\' :: '\n' :: value, []) :=
      rest?_ne_of_longer (Nat.lt_succ_of_lt (Nat.lt_succ_self _))
    simp [escapable, expanding, tooLong]
  by_cases isEscapable : next ∈ escapable
  · rw [if_pos isEscapable]
    simp only [isEscapable, List.mem_cons, or_true, not_true, false_and,
      iff_false, prepend_eq_some, not_exists, not_and]
    intro tail read equal
    cases equal
    exact rest?_ne_of_longer (Nat.lt_succ_self _) read
  · have plain : next ≠ '\\' ∧ next ∉ expanding := by
      simp only [escapable, List.mem_cons, not_or] at isEscapable
      exact isEscapable.2
    rw [if_neg isEscapable, if_neg isNewline, if_neg plain.1, if_neg plain.2]
    simp [isEscapable, isNewline]

theorem rest?_escaped_iff (value : List Char) :
    rest? false (escaped value ++ ['"']) = some (value, []) ↔
      IsLiteral value := by
  induction value with
  | nil => decide
  | cons c value ih =>
      by_cases isBackslash : c = '\\'
      · subst isBackslash
        rw [escaped_cons (by decide), List.cons_append, rest?,
          if_neg (by decide), if_pos rfl]
        cases value with
        | nil => decide
        | cons next value => exact rest?_backslash_iff next value ih
      rw [isLiteral_cons isBackslash, ← ih]
      by_cases isQuote : c = '"'
      · subst isQuote
        simp [escaped_quote, rest?, escapable, expanding]
      rw [escaped_cons isQuote, List.cons_append, rest?, if_neg isQuote,
        if_neg isBackslash]
      split_ifs with expands <;> simp [expands]

/-- The shell word that is typed for a value is the value, and ends at its last
character, exactly for the literal values. -/
theorem word?_escapeDoubleQuotes_iff (value : String) :
    word? ("\"" ++ escapeDoubleQuotes value ++ "\"") = some (value, "") ↔
      IsLiteral value.toList := by
  have line : ("\"" ++ escapeDoubleQuotes value ++ "\"").toList =
      '"' :: (escaped value.toList ++ ['"']) := by
    simp [escapeDoubleQuotes_toList]
  rw [← rest?_escaped_iff, word?, line]
  simp [String.ext_iff]

example : IsLiteral "C:\\work \"here\"".toList := by decide

/-- A double quote after a backslash ends the word. -/
theorem not_forall_word?_escapeDoubleQuotes :
    ¬∀ value : String,
      '\n' ∉ value.toList → (∀ c ∈ value.toList, c ∉ expanding) →
        word? ("\"" ++ escapeDoubleQuotes value ++ "\"") = some (value, "") := by
  intro readBack
  have read : word? ("\"" ++ escapeDoubleQuotes "\\\"" ++ "\"") =
      some ("\\", "\"") := by
    decide
  have claimed := readBack "\\\"" (by decide) (by simp [expanding])
  rw [read] at claimed
  exact absurd claimed (by decide)

end PaneLayout.DoubleQuoted
