import PaneLayout.Yaml.PlainScalar
import PaneLayout.Yaml.Tag

/-!
# Styles of scalars

Text is written plain where that reads back as the same text, else between
single quotes, and between double quotes where it holds characters that need an
escape or blanks next to a line break.
-/

namespace PaneLayout.Yaml

/-- How a scalar is written. -/
inductive ScalarStyle where
  | plain
  | single
  | double
deriving Repr, BEq, DecidableEq, Inhabited

namespace ScalarStyle

/-- A character that needs an escape: all but the line feed and the printable
characters of ASCII. -/
def needsEscape (c : Char) : Bool :=
  !(c == '\n' || (0x20 ≤ c.toNat && c.toNat ≤ 0x7E))

/-- A character that ends a line of written text. -/
def endsLine (c : Char) : Bool :=
  c == '\n' || c == '\u0085' || c == '\u2028' || c == '\u2029'

/-- The text has more than one line. -/
def isMultiline (text : List Char) : Bool :=
  text.any endsLine

/-- Two characters stand next to each other somewhere. -/
def hasPair (first second : Char) : List Char → Bool
  | a :: b :: rest => (a == first && b == second) || hasPair first second (b :: rest)
  | _ => false

/-- Nothing follows, or something that separates. -/
def isFollowedByBlank : List Char → Bool
  | [] => true
  | c :: _ => c == '\x00' || isSeparation c

/-- The first character begins something other than text. -/
def startsWithIndicator : List Char → Bool
  | [] => false
  | c :: rest =>
      "#,[]\x7b\x7d&*!|>'\"%@".toList.contains c || c.toNat == 0x60 ||
        ((c == '?' || c == ':' || c == '-') && isFollowedByBlank rest)

/-- A colon or a hash after the first character would end the text. -/
def containsIndicator : List Char → Bool
  | a :: b :: rest =>
      (b == ':' && isFollowedByBlank rest) ||
        (b == '#' && (a == '\x00' || isSeparation a)) ||
        containsIndicator (b :: rest)
  | _ => false

/-- The text begins like a document marker. -/
def startsWithMarker (text : List Char) : Bool :=
  text.take 3 == ['-', '-', '-'] || text.take 3 == ['.', '.', '.']

/-- A blank or a line feed. -/
def isEdgeBlank (c : Option Char) : Bool :=
  c == some ' ' || c == some '\n'

/-- The text can stand without quotes in a block collection. -/
def allowsPlain (text : List Char) : Bool :=
  Tag.ofPlain text == .text && !text.any needsEscape && !isMultiline text &&
    !isEdgeBlank text.head? && !isEdgeBlank text.getLast? &&
    !startsWithIndicator text && !containsIndicator text &&
    !startsWithMarker text

/-- The text can stand between single quotes. -/
def allowsSingle (text : List Char) : Bool :=
  !text.any needsEscape && !hasPair '\n' ' ' text && !hasPair ' ' '\n' text

/-- The style of a text.  A key on one line must not contain a line break. -/
def ofText (text : List Char) ( isLineKey : Bool) : ScalarStyle :=
  if allowsPlain text then
    .plain
  else if allowsSingle text && !(isLineKey && isMultiline text) then
    .single
  else
    .double

end ScalarStyle

end PaneLayout.Yaml
