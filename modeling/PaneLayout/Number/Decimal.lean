import PaneLayout.Number.Binary64
import PaneLayout.Text.Digit

/-!
# Doubles written in decimal

A numeral for a double has digits of any script, perhaps with a decimal point
and an exponent, or is one of the names of the doubles that are not finite.  It
stands for the nearest double, an infinity where that is the nearest.
-/

namespace PaneLayout

/-- A significand times a power of ten. -/
structure Decimal where
  significand : Nat
  exponent : Int
deriving Repr, BEq, DecidableEq

namespace Decimal

/-- The number of digits of the significand. -/
def digitCount (value : Decimal) : Nat :=
  if value.significand = 0 then 0 else (Nat.toDigits 10 value.significand).length

/-- The nearest double.  Values far outside the range are decided by their
size, so that no power of ten grows with the exponent. -/
def toDouble (value : Decimal) : Float :=
  let size := value.digitCount + value.exponent
  if value.significand = 0 ∨ size < -400 then
    Float.ofScientific 0 false 0
  else if 400 < size then
    Binary64.infinity
  else
    Float.ofScientific value.significand (value.exponent < 0)
      value.exponent.natAbs

/-- Reads an exponent with an optional sign. -/
def readExponent (text : List Char) : Except Fault Int :=
  match text with
  | '-' :: digits => return -((← digitsOf digits : Nat) : Int)
  | '+' :: digits => return (← digitsOf digits : Nat)
  | digits => return (← digitsOf digits : Nat)
where
  digitsOf (digits : List Char) : Except Fault Nat :=
    match digits.mapM digitValue? with
    | none => .error .malformedNumeral
    | some [] => .error .malformedNumeral
    | some values => .ok (valueOfDigits values)

/-- Reads digits with an optional point and exponent. -/
def read (text : List Char) : Except Fault Decimal := do
  let whole := text.takeWhile isDecimalDigit
  let afterWhole := text.dropWhile isDecimalDigit
  let (fraction, rest) := match afterWhole with
    | '.' :: rest => (rest.takeWhile isDecimalDigit, rest.dropWhile isDecimalDigit)
    | rest => ([], rest)
  let some digits := (whole ++ fraction).mapM digitValue?
    | throw .malformedNumeral
  if digits.isEmpty then
    throw .malformedNumeral
  let exponent ← match rest with
    | [] => pure 0
    | c :: rest =>
        if c == 'e' || c == 'E' then
          readExponent rest
        else
          throw .malformedNumeral
  pure ⟨valueOfDigits digits, exponent - fraction.length⟩

end Decimal

/-- A text in lower case, as far as it is ASCII. -/
def lowered (text : List Char) : List Char :=
  text.map Char.toLower

/-- Reads a double without sign. -/
def readMagnitude (text : List Char) : Except Fault Float :=
  let name := String.ofList (lowered text)
  if name = "inf" ∨ name = "infinity" then
    .ok Binary64.infinity
  else if name = "nan" then
    .ok Binary64.notANumber
  else
    return (← Decimal.read text).toDouble

/-- Reads a double with an optional sign and blanks around it. -/
def readDouble (text : List Char) : Except Fault Float :=
  match trimBlanks text with
  | '-' :: magnitude => (readMagnitude magnitude).map fun value => -value
  | '+' :: magnitude => readMagnitude magnitude
  | magnitude => readMagnitude magnitude

/-- The value of a digit of a base up to thirty-six. -/
def baseDigit? (base : Nat) (c : Char) : Option Nat :=
  let value := match digitValue? c with
    | some value => some value
    | none =>
        if 'a' ≤ c.toLower ∧ c.toLower ≤ 'z' then
          some (c.toLower.toNat - 'a'.toNat + 10)
        else
          none
  value.filter (· < base)

/-- The letter that marks numerals of a base after a zero. -/
def baseLetter? : Nat → Option Char
  | 2 => some 'b'
  | 8 => some 'o'
  | 16 => some 'x'
  | _ => none

/-- A numeral without the mark of its base. -/
def dropBaseMark (base : Nat) (text : List Char) : List Char :=
  match text with
  | '0' :: letter :: digits =>
      if baseLetter? base == some letter.toLower then digits else text
  | _ => text

/-- Reads a whole number of a base, perhaps marked, with an optional sign and
blanks around it. -/
def readWholeIn (base : Nat) (text : List Char) : Except Fault Int :=
  match trimBlanks text with
  | '-' :: digits => (magnitude digits).map fun value => -(value : Int)
  | '+' :: digits => (magnitude digits).map Int.ofNat
  | digits => (magnitude digits).map Int.ofNat
where
  magnitude (text : List Char) : Except Fault Nat :=
    match (dropBaseMark base text).mapM (baseDigit? base) with
    | none => .error .malformedNumeral
    | some [] => .error .malformedNumeral
    | some digits =>
        .ok (digits.foldl (fun value digit => value * base + digit) 0)

end PaneLayout
