import PaneLayout.Fault

/-!
# Surrogates

A text is a sequence of code points.  A surrogate is a code point that is no
character: it has no bytes in UTF-8, and a document can only name it by an
escape.  The type of characters has no room for surrogates, so 2048 of the code
points for private use stand for them here.  This is a restriction: a text with
one of those private code points itself is not a text of this library.
-/

namespace PaneLayout

/-- The first surrogate. -/
def firstSurrogate : Nat := 0xD800

/-- The first of the private code points that stand for surrogates. -/
def firstStandIn : Nat := 0x10D800

/-- The character stands for a surrogate. -/
def isSurrogate (c : Char) : Bool :=
  firstStandIn ≤ c.toNat ∧ c.toNat < firstStandIn + 0x800

/-- The code point that a character is, or that it stands for. -/
def codePoint (c : Char) : Nat :=
  if isSurrogate c then c.toNat - firstStandIn + firstSurrogate else c.toNat

/-- The character that is a code point, or that stands for it. -/
def ofCodePoint? (code : Nat) : Option Char :=
  if code.isValidChar then
    some (Char.ofNat code)
  else if code < 0x110000 then
    some (Char.ofNat (code - firstSurrogate + firstStandIn))
  else
    none

/-- The text holds a surrogate. -/
def hasSurrogate (text : String) : Bool :=
  text.toList.any isSurrogate

/-- The bytes of a text in UTF-8. -/
def encodeText (text : String) : Except Fault (List UInt8) :=
  if hasSurrogate text then
    .error .unencodableText
  else
    .ok text.toUTF8.toList

end PaneLayout
