import PaneLayout.Calendar
import PaneLayout.Yaml.Cursor

/-!
# Dates and timestamps in YAML text

A moment is a date of the form `2001-12-14`, perhaps followed by a time of day
and an offset from universal time.  Month, day, hour and the hours of the offset
may have one digit.
-/

namespace PaneLayout.Yaml

/-- A date, or a timestamp, before it is known to exist. -/
structure Moment where
  year : Nat
  month : Nat
  day : Nat
  /-- Hour, minute, second and microsecond. -/
  time : Option (Nat × Nat × Nat × Nat)
  /-- Minutes ahead of universal time. -/
  offset : Option Int
  /-- Month and day have two digits each. -/
  isPadded : Bool
deriving Repr, BEq, Inhabited

namespace Moment

/-- The value of an ASCII digit. -/
def digit? (c : Char) : Option Nat :=
  if c.isDigit then some (c.toNat - '0'.toNat) else none

/-- Reads exactly two digits. -/
def two? : List Char → Option (Nat × List Char)
  | a :: b :: rest => do pure ((← digit? a) * 10 + (← digit? b), rest)
  | _ => none

/-- Reads one digit or two. -/
def oneOrTwo? (text : List Char) : Option (Nat × List Char) :=
  match two? text with
  | some found => some found
  | none =>
      match text with
      | a :: rest => (digit? a).map fun value => (value, rest)
      | [] => none

/-- What follows an expected character. -/
def after? (expected : Char) : List Char → Option (List Char)
  | c :: rest => if c == expected then some rest else none
  | [] => none

/-- The microseconds that the digits after a point stand for. -/
def microsecond (digits : List Char) : Nat :=
  let six := (digits ++ List.replicate 6 '0').take 6
  six.foldl (fun value c => value * 10 + (c.toNat - '0'.toNat)) 0

/-- Reads an offset from universal time to the end of a text. -/
def offset? (text : List Char) : Option (Option Int) :=
  match text with
  | [] => some none
  | _ =>
      match text.dropWhile isSpacing with
      | ['Z'] => some (some 0)
      | '+' :: rest => (minutes? rest).map fun minutes => some (minutes : Int)
      | '-' :: rest => (minutes? rest).map fun minutes => some (-(minutes : Int))
      | _ => none
where
  minutes? (text : List Char) : Option Nat := do
    let (hours, rest) ← oneOrTwo? text
    match rest with
    | [] => pure (hours * 60)
    | _ =>
        let (minutes, rest) ← two? (← after? ':' rest)
        if rest.isEmpty then pure (hours * 60 + minutes) else none

/-- What follows the separator between date and time. -/
def afterSeparator? : List Char → Option (List Char)
  | 'T' :: rest => some rest
  | 't' :: rest => some rest
  | c :: rest => if isSpacing c then some (rest.dropWhile isSpacing) else none
  | [] => none

/-- Reads a time of day and an offset to the end of a text. -/
def time? (text : List Char) :
    Option ((Nat × Nat × Nat × Nat) × Option Int) := do
  let (hour, rest) ← oneOrTwo? (← afterSeparator? text)
  let (minute, rest) ← two? (← after? ':' rest)
  let (second, rest) ← two? (← after? ':' rest)
  let (digits, rest) := match rest with
    | '.' :: rest => (rest.takeWhile Char.isDigit, rest.dropWhile Char.isDigit)
    | rest => ([], rest)
  pure ((hour, minute, second, microsecond digits), ← offset? rest)

/-- Reads a text that is a moment. -/
def read? (text : List Char) : Option Moment := do
  let (century, rest) ← two? text
  let (year, rest) ← two? rest
  let afterYear ← after? '-' rest
  let (month, rest) ← oneOrTwo? afterYear
  let afterMonth ← after? '-' rest
  let (day, rest) ← oneOrTwo? afterMonth
  let isPadded := (two? afterYear).isSome && (two? afterMonth).isSome
  let year := century * 100 + year
  match rest with
  | [] => pure ⟨year, month, day, none, none, isPadded⟩
  | _ =>
      let (time, offset) ← time? rest
      pure ⟨year, month, day, some time, offset, isPadded⟩

/-- A moment that is recognised without a tag: a date must be padded. -/
def isEvident (moment : Moment) : Bool :=
  moment.time.isSome || moment.isPadded

end Moment

end PaneLayout.Yaml
