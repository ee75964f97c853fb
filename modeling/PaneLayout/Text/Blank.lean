/-!
# Blank characters

The characters that separate words: the ASCII blanks and line breaks, the four
information separators, and the spaces and separators of Unicode.  Zero-width
characters and the byte order mark are not among them.
-/

namespace PaneLayout

/-- A character that trimming removes. -/
def isBlank (c : Char) : Bool :=
  let code := c.toNat
  (0x09 ≤ code && code ≤ 0x0D) || (0x1C ≤ code && code ≤ 0x20) ||
    code == 0x85 || code == 0xA0 || code == 0x1680 ||
    (0x2000 ≤ code && code ≤ 0x200A) || code == 0x2028 || code == 0x2029 ||
    code == 0x202F || code == 0x205F || code == 0x3000

/-- Characters without the ones at the end that satisfy a test. -/
def dropEndWhile (test : Char → Bool) (text : List Char) : List Char :=
  (text.reverse.dropWhile test).reverse

/-- Characters without the blanks at both ends. -/
def trimBlanks (text : List Char) : List Char :=
  dropEndWhile isBlank (text.dropWhile isBlank)

/-- Text without the blanks at both ends. -/
def trimmed (text : String) : String :=
  String.ofList (trimBlanks text.toList)

/-- Text that holds nothing but blanks. -/
def isBlankText (text : String) : Bool :=
  text.toList.all isBlank

/-- The pieces of a list between the elements that satisfy a test.  There is
always one piece more than there are such elements. -/
def splitWhere {α : Type} (test : α → Bool) : List α → List (List α)
  | [] => [[]]
  | item :: rest =>
      if test item then
        [] :: splitWhere test rest
      else
        match splitWhere test rest with
        | [] => [[item]]
        | piece :: pieces => (item :: piece) :: pieces

/-- The lines of a text that a line feed separates. -/
def linesOf (text : String) : List String :=
  (splitWhere (· == '\n') text.toList).map String.ofList

end PaneLayout
