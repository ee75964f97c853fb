import PaneLayout.Json
import PaneLayout.Value.Display
import PaneLayout.Yaml.Page

/-!
# Written documents

Collections are written as blocks: every entry has a line, the entries of a
mapping inside another collection are indented by two spaces, and the entries of
a sequence stand at the column of the key before it.  Empty collections are
written as a pair of brackets or braces.
-/

namespace PaneLayout.Yaml

/-- Doubles are written as in messages, with a decimal point before every
exponent. -/
def floatText (x : Float) : String :=
  let layout := { doubleLayout with
    infinity := ".inf"
    negativeInfinity := "-.inf"
    notANumber := ".nan" }
  let characters := (layout.text x).toList
  if characters.contains '.' then
    String.ofList characters
  else
    String.ofList <| characters.flatMap fun c =>
      if c == 'e' then ['.', '0', 'e'] else [c]

/-- A key that is written on a line with its value: one short line of text. -/
def isLineKey (key : String) : Bool :=
  key.length < 123 && !key.isEmpty && !ScalarStyle.isMultiline key.toList

mutual

/-- Writes a value inside a collection at the given indentation. -/
def putNode (indent : Nat) ( inMapping : Bool) (page : Page) :
    Json → Except Fault Page
  | .null => .ok (page.putWord "null")
  | .bool value => .ok (page.putWord (if value then "true" else "false"))
  | .int value => (wholeText value).map page.putWord
  | .float value => .ok (page.putWord (floatText value))
  | .text value => .ok (page.putScalar (indent + 2) false value)
  | .array [] => .ok ((page.indicator "[" false).closing "]")
  | .object [] => .ok ((page.indicator "\x7b" false).closing "\x7d")
  | .array (item :: items) =>
      let indent := if inMapping && !page.isFresh then indent else indent + 2
      putItems indent page (item :: items)
  | .object (member :: members) => putMembers (indent + 2) page (member :: members)

/-- Writes the entries of a sequence. -/
def putItems (indent : Nat) (page : Page) : List Json → Except Fault Page
  | [] => .ok page
  | item :: items => do
      let page := (page.toIndent indent).indicator "-" true
      putItems indent (← putNode indent false page item) items

/-- Writes the entries of a mapping. -/
def putMembers (indent : Nat) (page : Page) :
    List (String × Json) → Except Fault Page
  | [] => .ok page
  | (key, value) :: members => do
      let page := page.toIndent indent
      let page :=
        if isLineKey key then
          (page.putScalar (indent + 2) true key).closing ":"
        else
          let page := (page.indicator "?" true).putScalar (indent + 2) false key
          (page.toIndent indent).indicator ":" true
      putMembers indent (← putNode indent true page value) members

end

/-- The document that consists of a mapping. -/
def documentText (members : List (String × Json)) : Except Fault String := do
  if members.isEmpty then
    return "\x7b\x7d\n"
  let page ← putMembers 0 {} members
  return (page.toIndent 0).text

end PaneLayout.Yaml
