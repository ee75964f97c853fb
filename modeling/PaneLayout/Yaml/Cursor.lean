import PaneLayout.Yaml.Defect

/-!
# Positions in YAML text

A cursor is the text that is still to be read together with the place of its
first character.  Lines end at a line feed, a carriage return or both, and at
the line breaks of Unicode; a byte order mark takes no column.
-/

namespace PaneLayout.Yaml

/-- A character that ends a line. -/
def isBreak (c : Char) : Bool :=
  c == '\n' || c == '\r' || c == '\u0085' || c == '\u2028' || c == '\u2029'

/-- A space or a tab. -/
def isSpacing (c : Char) : Bool :=
  c == ' ' || c == '\t'

/-- A space, a tab or the end of a line. -/
def isSeparation (c : Char) : Bool :=
  isSpacing c || isBreak c

/-- Nothing follows, or something that separates. -/
def atSeparation : List Char → Bool
  | [] => true
  | c :: _ => isSeparation c

/-- Nothing follows, or a space or the end of a line. -/
def atSpaceOrBreak : List Char → Bool
  | [] => true
  | c :: _ => c == ' ' || isBreak c

/-- Nothing follows, or the end of a line. -/
def atLineEnd : List Char → Bool
  | [] => true
  | c :: _ => isBreak c

/-- The line starts with three hyphens that stand alone. -/
def atDocumentStart : List Char → Bool
  | '-' :: '-' :: '-' :: rest => atSeparation rest
  | _ => false

/-- The line starts with three dots that stand alone. -/
def atDocumentEnd : List Char → Bool
  | '.' :: '.' :: '.' :: rest => atSeparation rest
  | _ => false

/-- The line starts with a document marker. -/
def atMarker (text : List Char) : Bool :=
  atDocumentStart text || atDocumentEnd text

/-- The line break that a character which ends a line stands for. -/
def breakText (c : Char) : Char :=
  if c == '\u2028' || c == '\u2029' then c else '\n'

/-- A carriage return before a line feed, which is part of its line break. -/
def isSilent (c : Char) (rest : List Char) : Bool :=
  c == '\r' && rest.head? == some '\n'

/-- A letter, a digit, a hyphen or an underscore of ASCII. -/
def isNameCharacter (c : Char) : Bool :=
  c.isAlphanum || c == '-' || c == '_'

/-- A character that may stand in a document. -/
def isAllowed (c : Char) : Bool :=
  let code := codePoint c
  code == 0x09 || code == 0x0A || code == 0x0D ||
    (0x20 ≤ code && code ≤ 0x7E) || code == 0x85 ||
    (0xA0 ≤ code && code ≤ 0xD7FF) || (0xE000 ≤ code && code ≤ 0xFFFD) ||
    0x10000 ≤ code

/-- A place in a text. -/
structure Cursor where
  /-- The text from this place on. -/
  rest : List Char
  /-- How many characters lie before it. -/
  index : Nat
  /-- How many line breaks lie before it. -/
  line : Nat
  /-- How many characters lie before it on its line. -/
  column : Nat
deriving Repr, Inhabited

namespace Cursor

/-- The start of a text, after a byte order mark. -/
def start (text : List Char) : Cursor :=
  match text with
  | '\uFEFF' :: rest => ⟨rest, 1, 0, 0⟩
  | _ => ⟨text, 0, 0, 0⟩

/-- The place after one more character. -/
def advance (cursor : Cursor) : Cursor :=
  match cursor.rest with
  | [] => cursor
  | c :: rest =>
      if isBreak c && !isSilent c rest then
        ⟨rest, cursor.index + 1, cursor.line + 1, 0⟩
      else if c == '\uFEFF' then
        ⟨rest, cursor.index + 1, cursor.line, cursor.column⟩
      else
        ⟨rest, cursor.index + 1, cursor.line, cursor.column + 1⟩

/-- The place after a number of characters. -/
def skip : Nat → Cursor → Cursor
  | 0, cursor => cursor
  | count + 1, cursor => skip count cursor.advance

/-- The place at which only a given end of the text is left. -/
def moveTo (cursor : Cursor) (rest : List Char) : Cursor :=
  cursor.skip (cursor.rest.length - rest.length)

end Cursor

end PaneLayout.Yaml
