import PaneLayout.Json.Text
import PaneLayout.Text.Base64

/-!
# Document values as JSON

Options of a terminal may hold any value.  They are stored in a canonical form
that JSON can write, so that plans with the same options have the same hash.
Bytes become base64, dates and timestamps their text, keys are turned into
text, and the members of a set are listed in the order of their JSON texts.

A saved configuration uses another reading, which drops more: bytes are decoded
as UTF-8 and doubles that are not finite become null.
-/

namespace PaneLayout

namespace Json

/-- Members of a set in the order of their JSON texts. -/
def sortMembers (members : List Json) : Except Fault (List Json) := do
  let keyed ← members.mapM fun member => do
    return (← member.render .sortKey, member)
  return (Entries.sortByKey keyed).map Prod.snd

end Json

namespace Value

mutual

/-- The canonical JSON form of a value. -/
def canonical : Value → Except Fault Json
  | .null => .ok .null
  | .bool value => .ok (.bool value)
  | .int value => .ok (.int value)
  | .float value => .ok (.float value)
  | .text value => .ok (.text value)
  | .bytes octets => .ok (.text (String.ofList (Base64.encode octets)))
  | .date value => .ok (.text value.text)
  | .timestamp value => .ok (.text value.text)
  | .list items => do return .array (← canonicalList items)
  | .tuple items => do return .array (← canonicalList items)
  | .set members => do
      return .array (← Json.sortMembers (← canonicalList members))
  | .mapping entries => do
      return .object (Entries.ofList (← canonicalEntries entries))

def canonicalList : List Value → Except Fault (List Json)
  | [] => .ok []
  | item :: items => do
      let first ← item.canonical
      return first :: (← canonicalList items)

/-- Entries with keys turned into text, before clashes are settled. -/
def canonicalEntries : List (Value × Value) → Except Fault (Entries Json)
  | [] => .ok []
  | (key, value) :: entries => do
      let name ← key.keyText
      let first ← value.canonical
      return (name, first) :: (← canonicalEntries entries)

end

/-- Bytes as text, which they must encode. -/
def decodeText (octets : List UInt8) : Except Fault String :=
  match String.fromUTF8? ⟨octets.toArray⟩ with
  | some decoded => .ok decoded
  | none => .error .undecodableText

/-- The offset of a saved timestamp, with a letter for universal time itself. -/
def savedOffset (minutes : Int) : String :=
  if minutes = 0 then "Z" else Timestamp.offsetText minutes

mutual

/-- The text that a key is saved as. -/
def savedKey : Value → Except Fault String
  | .bool value => .ok (if value then "true" else "false")
  | .bytes octets => decodeText octets
  | .timestamp value => .ok (value.textWith "T" savedOffset)
  | .tuple items => do return ",".intercalate (← savedKeyList items)
  | value => value.keyText

def savedKeyList : List Value → Except Fault (List String)
  | [] => .ok []
  | item :: items => do
      let first ← item.savedKey
      return first :: (← savedKeyList items)

end

mutual

/-- The JSON form in which a value is saved. -/
def saved : Value → Except Fault Json
  | .null => .ok .null
  | .bool value => .ok (.bool value)
  | .int value => .ok (.int value)
  | .float value => .ok (if value.isFinite then .float value else .null)
  | .text value => .ok (.text value)
  | .bytes octets => (decodeText octets).map .text
  | .date value => .ok (.text value.text)
  | .timestamp value => .ok (.text (value.textWith "T" savedOffset))
  | .list items => do return .array (← savedList items)
  | .tuple items => do return .array (← savedList items)
  | .set members => do return .array (← savedList members)
  | .mapping entries => do
      return .object (Entries.ofList (← savedEntries entries))

def savedList : List Value → Except Fault (List Json)
  | [] => .ok []
  | item :: items => do
      let first ← item.saved
      return first :: (← savedList items)

def savedEntries : List (Value × Value) → Except Fault (Entries Json)
  | [] => .ok []
  | (key, value) :: entries => do
      let name ← key.savedKey
      let first ← value.saved
      return (name, first) :: (← savedEntries entries)

end

end Value

end PaneLayout
