import PaneLayout.Text.Printable
import PaneLayout.Text.Surrogate

/-!
# Quoted text in messages

A message shows a text between single quotes, or between double quotes when the
text holds a single quote and no double one.  Backslashes, the quote itself and
unprintable characters are written as escapes.
-/

namespace PaneLayout

/-- A hexadecimal numeral in lower case of at least the given width. -/
def hexText (width : Nat) (n : Nat) : String :=
  let digits := Nat.toDigits 16 n
  String.ofList (List.replicate (width - digits.length) '0' ++ digits)

/-- The escape of a character by its code point. -/
def codeEscape (c : Char) : String :=
  let code := codePoint c
  if code < 0x100 then
    "\\x" ++ hexText 2 code
  else if code < 0x10000 then
    "\\u" ++ hexText 4 code
  else
    "\\U" ++ hexText 8 code

/-- A character as it stands between the given quotes. -/
def quotedChar (quote : Char) (c : Char) : String :=
  if c = quote ∨ c = '\\' then
    String.ofList ['\\', c]
  else if c = '\n' then
    "\\n"
  else if c = '\r' then
    "\\r"
  else if c = '\t' then
    "\\t"
  else if isPrintable c then
    String.ofList [c]
  else
    codeEscape c

/-- The quote that a text is written between. -/
def quoteFor (text : String) : Char :=
  if text.toList.contains '\'' && !text.toList.contains '"' then '"' else '\''

/-- A text between quotes. -/
def quoted (text : String) : String :=
  let quote := quoteFor text
  String.ofList [quote] ++ String.join (text.toList.map (quotedChar quote)) ++
    String.ofList [quote]

/-- An octet as it stands in quoted bytes. -/
def quotedOctet (quote : Char) (octet : UInt8) : String :=
  let c := Char.ofNat octet.toNat
  if octet.toNat < 0x7F then quotedChar quote c else "\\x" ++ hexText 2 octet.toNat

/-- Bytes between quotes, marked by a `b`. -/
def quotedBytes (octets : List UInt8) : String :=
  let hasSingle := octets.contains 39
  let hasDouble := octets.contains 34
  let quote := if hasSingle && !hasDouble then '"' else '\''
  "b" ++ String.ofList [quote] ++
    String.join (octets.map (quotedOctet quote)) ++ String.ofList [quote]

end PaneLayout
