import PaneLayout.Fault
import PaneLayout.Number.Total

/-!
# Dates and timestamps

Dates of the Gregorian calendar from year 1 to year 9999, and times of day with
microseconds and an optional offset from universal time in minutes.
-/

namespace PaneLayout

/-- A numeral filled up with zeros to a width. -/
def padded (width : Nat) (n : Nat) : String :=
  let digits := (toString n).toList
  String.ofList (List.replicate (width - digits.length) '0' ++ digits)

structure Date where
  year : Nat
  month : Nat
  day : Nat
deriving Repr, BEq, DecidableEq, Inhabited

namespace Date

def isLeapYear (year : Nat) : Bool :=
  year % 4 == 0 && (year % 100 != 0 || year % 400 == 0)

def daysInMonth (year month : Nat) : Nat :=
  if month = 2 then
    (if isLeapYear year then 29 else 28)
  else if [4, 6, 9, 11].contains month then
    30
  else
    31

/-- The date exists. -/
def isValid (date : Date) : Bool :=
  1 ≤ date.year && date.year ≤ 9999 && 1 ≤ date.month && date.month ≤ 12 &&
    1 ≤ date.day && date.day ≤ daysInMonth date.year date.month

/-- A date, if it exists. -/
def make (year month day : Nat) : Except Fault Date :=
  let date : Date := ⟨year, month, day⟩
  if date.isValid then .ok date else .error .impossibleMoment

/-- Days since the first day of year 1. -/
def dayNumber (date : Date) : Nat :=
  let before := date.year - 1
  let months := (List.range (date.month - 1)).map fun index =>
    daysInMonth date.year (index + 1)
  before * 365 + before / 4 - before / 100 + before / 400 + total months +
    (date.day - 1)

/-- Year, month and day joined by hyphens. -/
def text (date : Date) : String :=
  padded 4 date.year ++ "-" ++ padded 2 date.month ++ "-" ++ padded 2 date.day

end Date

structure Timestamp where
  date : Date
  hour : Nat
  minute : Nat
  second : Nat
  microsecond : Nat
  /-- Minutes ahead of universal time; `none` for a local time. -/
  offset : Option Int
deriving Repr, BEq, DecidableEq, Inhabited

namespace Timestamp

/-- A timestamp, if its date, time of day and offset exist. -/
def make (date : Date) (hour minute second microsecond : Nat)
    (offset : Option Int) : Except Fault Timestamp :=
  let offsetExists := match offset with
    | none => true
    | some minutes => minutes.natAbs < 24 * 60
  if date.isValid && hour < 24 && minute < 60 && second < 60 &&
      microsecond < 1000000 && offsetExists then
    .ok ⟨date, hour, minute, second, microsecond, offset⟩
  else
    .error .impossibleMoment

/-- Microseconds since the start of year 1, in universal time when the offset is
known. -/
def instant (moment : Timestamp) : Int :=
  let minutes : Int := (moment.date.dayNumber * 24 + moment.hour) * 60 +
    moment.minute - moment.offset.getD 0
  (minutes * 60 + moment.second) * 1000000 + moment.microsecond

/-- Timestamps with an offset are compared as instants, local times as they are
written; one of each kind never agree. -/
def agrees (left right : Timestamp) : Bool :=
  left.offset.isSome == right.offset.isSome && left.instant == right.instant

/-- Hours and minutes of an offset, with its sign. -/
def offsetText (minutes : Int) : String :=
  (if minutes < 0 then "-" else "+") ++ padded 2 (minutes.natAbs / 60) ++ ":" ++
    padded 2 (minutes.natAbs % 60)

/-- Date and time of day with the given separator and text for the offset. -/
def textWith (separator : String) (offsetText : Int → String)
    (moment : Timestamp) : String :=
  let fraction :=
    if moment.microsecond = 0 then "" else "." ++ padded 6 moment.microsecond
  let offset := match moment.offset with
    | none => ""
    | some minutes => offsetText minutes
  moment.date.text ++ separator ++ padded 2 moment.hour ++ ":" ++
    padded 2 moment.minute ++ ":" ++ padded 2 moment.second ++ fraction ++ offset

/-- The form with a `T` between date and time. -/
def text (moment : Timestamp) : String :=
  moment.textWith "T" offsetText

end Timestamp

end PaneLayout
