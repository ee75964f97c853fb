import PaneLayout.Yaml.Cursor

/-!
# Quoted scalars

A quoted scalar may go over several lines.  Blanks around a line break belong to
it; a single line break reads as a space, and of several the first is dropped.
Between single quotes only the quote itself is special, and is written twice;
between double quotes a backslash begins an escape, also of a line break.

The reader goes through the text one character at a time.
-/

namespace PaneLayout.Yaml

inductive Quote where
  | single
  | double
deriving Repr, BEq, DecidableEq, Inhabited

/-- The character that closes a scalar. -/
def Quote.mark : Quote → Char
  | .single => '\''
  | .double => '"'

/-- The characters that a backslash stands for before a single character. -/
def shortEscapes : List (Char × Char) :=
  [('0', '\x00'), ('a', '\x07'), ('b', '\x08'), ('t', '\t'), ('\t', '\t'),
   ('n', '\n'), ('v', '\x0B'), ('f', '\x0C'), ('r', '\r'), ('e', '\x1B'),
   (' ', ' '), ('"', '"'), ('\\', '\\'), ('/', '/'), ('N', '\u0085'),
   ('_', '\u00A0'), ('L', '\u2028'), ('P', '\u2029')]

/-- How many digits of base sixteen follow a backslash and a letter. -/
def codeLength? : Char → Option Nat
  | 'x' => some 2
  | 'u' => some 4
  | 'U' => some 8
  | _ => none

/-- The value of a digit of base sixteen. -/
def hexValue? (c : Char) : Option Nat :=
  if c.isDigit then
    some (c.toNat - '0'.toNat)
  else if 'a' ≤ c ∧ c ≤ 'f' then
    some (c.toNat - 'a'.toNat + 10)
  else if 'A' ≤ c ∧ c ≤ 'F' then
    some (c.toNat - 'A'.toNat + 10)
  else
    none

/-- The character with a code point, which may be a surrogate. -/
def characterOf (code : Nat) : Except Fault Char :=
  match ofCodePoint? code with
  | some c => .ok c
  | none => .error .characterOutOfRange

/-- The line breaks between two lines of a scalar: the first, and those of the
empty lines after it. -/
structure Fold where
  first : Char
  more : List Char := []
deriving Repr, BEq, Inhabited

/-- The text that the line breaks between two lines stand for. -/
def Fold.text (fold : Fold) : List Char :=
  if fold.first != '\n' then
    fold.first :: fold.more
  else if fold.more.isEmpty then
    [' ']
  else
    fold.more

/-- One more empty line. -/
def Fold.push (fold : Fold) (c : Char) : Fold :=
  { fold with more := fold.more ++ [breakText c] }

namespace QuotedScalar

/-- What has been read since the last character of the text. -/
inductive Mode where
  /-- Spaces and tabs. -/
  | blanks (characters : List Char)
  /-- Line breaks and the blanks around them. -/
  | lines (fold : Fold)
  /-- An escaped line break, and the line breaks of the empty lines after it. -/
  | continued (more : List Char)
  /-- A backslash. -/
  | escape
  /-- Part of the code point of a character. -/
  | code (missing value : Nat)

/-- The text that blanks and line breaks stand for before another character. -/
def Mode.text : Mode → List Char
  | .blanks characters => characters
  | .lines fold => fold.text
  | .continued more => more
  | .escape => []
  | .code _ _ => []

/-- Blanks at the beginning and at the end of a line are dropped. -/
def Mode.blank (mode : Mode) (c : Char) : Mode :=
  match mode with
  | .blanks characters => .blanks (characters ++ [c])
  | mode => mode

/-- One more line break. -/
def Mode.break (mode : Mode) (c : Char) : Mode :=
  match mode with
  | .lines fold => .lines (fold.push c)
  | .continued more => .continued (more ++ [breakText c])
  | _ => .lines ⟨breakText c, []⟩

/-- Reads to the closing quote.  `read` holds the text so far, last character
first.  The result is the whole text and what follows the quote. -/
def readFrom (quote : Quote) : Mode → List Char → List Char →
    Except Trouble (List Char × List Char)
  | _, _, [] => .error (.defect .unclosedQuote)
  | .escape, read, c :: rest =>
      match shortEscapes.lookup c with
      | some meaning => readFrom quote (.blanks []) (meaning :: read) rest
      | none =>
          match codeLength? c with
          | some length => readFrom quote (.code length 0) read rest
          | none =>
              if isSilent c rest then
                readFrom quote .escape read rest
              else if isBreak c then
                if atMarker rest then
                  .error (.defect .markerInQuote)
                else
                  readFrom quote (.continued []) read rest
              else
                .error (.defect .unknownEscape)
  | .code missing value, read, c :: rest =>
      match hexValue? c with
      | none => .error (.defect .unknownEscape)
      | some digit =>
          let value := value * 16 + digit
          if missing = 1 then
            match characterOf value with
            | .ok meaning => readFrom quote (.blanks []) (meaning :: read) rest
            | .error cause => .error (.fault cause)
          else
            readFrom quote (.code (missing - 1) value) read rest
  | mode, read, c :: rest =>
      if isSpacing c then
        readFrom quote (mode.blank c) read rest
      else if isSilent c rest then
        readFrom quote mode read rest
      else if isBreak c then
        if atMarker rest then
          .error (.defect .markerInQuote)
        else
          readFrom quote (mode.break c) read rest
      else
        let read := mode.text.reverse ++ read
        if c == quote.mark then
          match quote, rest with
          | .single, '\'' :: rest => readFrom quote (.blanks []) ('\'' :: read) rest
          | _, rest => .ok (read.reverse, rest)
        else if c == '\\' && quote == .double then
          readFrom quote .escape read rest
        else
          readFrom quote (.blanks []) (c :: read) rest

/-- Reads what follows an opening quote. -/
def read (quote : Quote) (text : List Char) :
    Except Trouble (String × List Char) := do
  let (text, rest) ← readFrom quote (.blanks []) [] text
  pure (String.ofList text, rest)

end QuotedScalar

end PaneLayout.Yaml
