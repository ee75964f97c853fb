import PaneLayout.Json
import PaneLayout.Value.Display

/-!
# JSON text

One printer serves every JSON text that the program writes.  A style says which
separators it uses, whether it sorts the members of an object by their keys,
whether it stays within ASCII, and whether it breaks lines.
-/

namespace PaneLayout.Json

structure Style where
  itemSeparator : String
  keySeparator : String
  /-- Only the printable characters of ASCII are written as they are. -/
  asciiOnly : Bool
  /-- Members are written in the order of their keys. -/
  sortsKeys : Bool
  /-- Spaces per level when every item has a line of its own. -/
  indent : Option Nat

/-- The form that plans are hashed in: sorted, compact and verbatim. -/
def Style.canonical : Style where
  itemSeparator := ","
  keySeparator := ":"
  asciiOnly := false
  sortsKeys := true
  indent := none

/-- The form by which members of a set are ordered. -/
def Style.sortKey : Style where
  itemSeparator := ", "
  keySeparator := ": "
  asciiOnly := true
  sortsKeys := true
  indent := none

/-- The form that is shown to people. -/
def Style.indented : Style where
  itemSeparator := ","
  keySeparator := ": "
  asciiOnly := false
  sortsKeys := false
  indent := some 2

/-- Doubles are written as in messages, with JSON's own words for the three that
are not finite. -/
def floatLayout : Shortest.Layout :=
  { doubleLayout with
    infinity := "Infinity"
    negativeInfinity := "-Infinity"
    notANumber := "NaN" }

/-- A code unit as an escape. -/
def unitEscape (unit : Nat) : String :=
  "\\u" ++ hexText 4 unit

/-- A character as escapes of its one or two code units.  A surrogate is a code
unit by itself. -/
def unicodeEscape (c : Char) : String :=
  let code := codePoint c
  if code < 0x10000 then
    unitEscape code
  else
    let offset := code - 0x10000
    unitEscape (0xD800 + offset / 0x400) ++ unitEscape (0xDC00 + offset % 0x400)

/-- A character inside a JSON string. -/
def charText (asciiOnly : Bool) (c : Char) : String :=
  if c = '"' then "\\\""
  else if c = '\\' then "\\\\"
  else if c = '\n' then "\\n"
  else if c = '\r' then "\\r"
  else if c = '\t' then "\\t"
  else if c.toNat = 8 then "\\b"
  else if c.toNat = 12 then "\\f"
  else if c.toNat < 0x20 then unitEscape c.toNat
  else if asciiOnly && 0x7F ≤ c.toNat then unicodeEscape c
  else String.ofList [c]

/-- A JSON string. -/
def stringText (asciiOnly : Bool) (text : String) : String :=
  "\"" ++ String.join (text.toList.map (charText asciiOnly)) ++ "\""

/-- Items between brackets, on lines of their own if the style asks for it. -/
def enclose (style : Style) (level : Nat) (opening closing : String)
    (items : List String) : String :=
  match items, style.indent with
  | [], _ => opening ++ closing
  | items, none => opening ++ style.itemSeparator.intercalate items ++ closing
  | items, some width =>
      let newline (depth : Nat) :=
        "\n" ++ String.ofList (List.replicate (width * depth) ' ')
      opening ++ newline (level + 1) ++
        (style.itemSeparator ++ newline (level + 1)).intercalate items ++
        newline level ++ closing

/-- Written members in the order that the style asks for. -/
def arrange (style : Style) (members : List (String × String)) :
    List (String × String) :=
  if style.sortsKeys then
    Entries.sortByKey members
  else
    members

/-- A written member with its key. -/
def memberText (style : Style) (member : String × String) : String :=
  stringText style.asciiOnly member.1 ++ style.keySeparator ++ member.2

mutual

/-- The text of a JSON value at some depth of brackets. -/
def textAt (style : Style) (level : Nat) : Json → Except Fault String
  | .null => .ok "null"
  | .bool value => .ok (if value then "true" else "false")
  | .int value => wholeText value
  | .float value => .ok (floatLayout.text value)
  | .text value => .ok (stringText style.asciiOnly value)
  | .array items => do
      return enclose style level "[" "]" (← textList style (level + 1) items)
  | .object members => do
      let written ← textMembers style (level + 1) members
      return enclose style level "\x7b" "\x7d"
        ((arrange style written).map (memberText style))

def textList (style : Style) (level : Nat) :
    List Json → Except Fault (List String)
  | [] => .ok []
  | item :: items => do
      let first ← item.textAt style level
      return first :: (← textList style level items)

def textMembers (style : Style) (level : Nat) :
    List (String × Json) → Except Fault (List (String × String))
  | [] => .ok []
  | (key, item) :: members => do
      let first ← item.textAt style level
      return (key, first) :: (← textMembers style level members)

end

/-- The text of a JSON value.  It fails on whole numbers with too many digits. -/
def render (style : Style) (json : Json) : Except Fault String :=
  json.textAt style 0

mutual

/-- A text or a key inside the value holds a surrogate. -/
def holdsSurrogate : Json → Bool
  | .text value => hasSurrogate value
  | .array items => holdsSurrogateList items
  | .object members => holdsSurrogateMembers members
  | _ => false

def holdsSurrogateList : List Json → Bool
  | [] => false
  | item :: items => item.holdsSurrogate || holdsSurrogateList items

def holdsSurrogateMembers : List (String × Json) → Bool
  | [] => false
  | (key, item) :: members =>
      hasSurrogate key || item.holdsSurrogate || holdsSurrogateMembers members

end

/-- The bytes of the canonical text of a JSON value.  The texts of the value stand
in it as they are, so it has bytes unless one of them holds a surrogate. -/
def canonicalBytes (json : Json) : Except Fault (List UInt8) := do
  let text ← json.render .canonical
  if json.holdsSurrogate then
    throw .unencodableText
  return text.toUTF8.toList

end PaneLayout.Json
