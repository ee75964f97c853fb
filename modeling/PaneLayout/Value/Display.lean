import PaneLayout.Number.Shortest
import PaneLayout.Text.Digit
import PaneLayout.Text.Quoted
import PaneLayout.Value

/-!
# The notation of values in messages

A message shows a value in full: texts between quotes, lists in brackets,
mappings and sets in braces, dates and timestamps by the fields they are made
of.  A value that serves as a key is shown plainly instead.
-/

namespace PaneLayout

/-- Doubles are positional from `0.0001` to below ten thousand million million,
and a single digit stands bare before a power. -/
def doubleLayout : Shortest.Layout where
  leastPositional := -4
  firstScientific := 16
  padsSingleDigit := false
  infinity := "inf"
  negativeInfinity := "-inf"
  notANumber := "nan"

/-- The text of a double. -/
def doubleText (x : Float) : String :=
  doubleLayout.text x

namespace Date

/-- A date by its fields. -/
def display (date : Date) : String :=
  s!"datetime.date({date.year}, {date.month}, {date.day})"

end Date

namespace Timestamp

/-- An offset by the days and seconds that it consists of. -/
def displayOffset (minutes : Int) : String :=
  if minutes = 0 then
    "datetime.timezone.utc"
  else
    let seconds := minutes * 60
    let days := seconds.fdiv 86400
    let parts :=
      (if days = 0 then [] else [s!"days={days}"]) ++
        [s!"seconds={seconds.fmod 86400}"]
    "datetime.timezone(datetime.timedelta(" ++ ", ".intercalate parts ++ "))"

/-- A timestamp by its fields; seconds and microseconds are left out from the
right while they are zero. -/
def display (moment : Timestamp) : String :=
  let date := moment.date
  let always := [date.year, date.month, date.day, moment.hour, moment.minute]
  let fine :=
    if moment.microsecond ≠ 0 then [moment.second, moment.microsecond]
    else if moment.second ≠ 0 then [moment.second]
    else []
  let fields := (always ++ fine).map toString
  let offset := match moment.offset with
    | none => []
    | some minutes => ["tzinfo=" ++ displayOffset minutes]
  "datetime.datetime(" ++ ", ".intercalate (fields ++ offset) ++ ")"

end Timestamp

namespace Value

mutual

/-- A value in full.  It fails on whole numbers with too many digits. -/
def display : Value → Except Fault String
  | .null => .ok "None"
  | .bool value => .ok (if value then "True" else "False")
  | .int value => wholeText value
  | .float value => .ok (doubleText value)
  | .text value => .ok (quoted value)
  | .bytes octets => .ok (quotedBytes octets)
  | .date value => .ok value.display
  | .timestamp value => .ok value.display
  | .list items => do
      return "[" ++ ", ".intercalate (← displayList items) ++ "]"
  | .tuple items => do
      let shown ← displayList items
      match shown with
      | [single] => return "(" ++ single ++ ",)"
      | _ => return "(" ++ ", ".intercalate shown ++ ")"
  | .set members => do
      let shown ← displayList members
      if shown.isEmpty then
        return "set()"
      else
        return "\x7b" ++ ", ".intercalate shown ++ "\x7d"
  | .mapping entries => do
      return "\x7b" ++ ", ".intercalate (← displayEntries entries) ++ "\x7d"

def displayList : List Value → Except Fault (List String)
  | [] => .ok []
  | item :: items => do
      let first ← item.display
      return first :: (← displayList items)

def displayEntries : List (Value × Value) → Except Fault (List String)
  | [] => .ok []
  | (key, value) :: entries => do
      let shownKey ← key.display
      let shownValue ← value.display
      return (shownKey ++ ": " ++ shownValue) :: (← displayEntries entries)

end

/-- The text that a key is turned into: texts stand for themselves, dates and
timestamps are written by the calendar, all else as in a message. -/
def keyText : Value → Except Fault String
  | .text value => .ok value
  | .date value => .ok value.text
  | .timestamp value => .ok (value.textWith " " Timestamp.offsetText)
  | value => value.display

end Value

end PaneLayout
