import PaneLayout.Number.Binary64

/-!
# The shortest decimal that reads back

A finite double stands for every real number that rounds to it.  Its text has
the fewest significant digits that any number of that interval has, and among
texts of that length the one nearest to the double itself.  Of two that are
equally near, the one with an even last digit is taken.

Digits are chosen on a decimal grid in exact arithmetic on whole numbers.  How
they are laid out is a separate matter, given by one record of decisions.
-/

namespace PaneLayout.Shortest

/-- Decimal digits and the power of ten that their last place counts. -/
structure Decimal where
  digits : Nat
  power : Int
deriving Repr, BEq, DecidableEq

/-- The interval of numbers that round to one positive double, with the double
itself in it, all over one denominator. -/
structure Interval where
  lower : Nat
  center : Nat
  upper : Nat
  denominator : Nat
  /-- Whether the two ends round to the double as well. -/
  closed : Bool
deriving Repr

/-- The interval around `significand · 2 ^ exponent`.  Just below a power of two
the next double is half as far as above it. -/
def Interval.around (significand : Nat) (exponent : Int) : Interval :=
  let below := if significand = Nat.pow 2 52 ∧ -1074 < exponent then 1 else 2
  let scale := Nat.pow 2 (exponent - 2).toNat
  { lower := (4 * significand - below) * scale
    center := 4 * significand * scale
    upper := (4 * significand + 2) * scale
    denominator := Nat.pow 2 (2 - exponent).toNat
    closed := significand % 2 = 0 }

/-- A point of the grid `10 ^ power` lies in the interval. -/
def Interval.contains (interval : Interval) (candidate : Decimal) : Bool :=
  let point := candidate.digits * interval.denominator *
    Nat.pow 10 candidate.power.toNat
  let stretch := Nat.pow 10 (-candidate.power).toNat
  if interval.closed then
    interval.lower * stretch ≤ point && point ≤ interval.upper * stretch
  else
    interval.lower * stretch < point && point < interval.upper * stretch

/-- The distance of a grid point from the center, over a denominator that all
points of one grid share. -/
def Interval.distance (interval : Interval) (candidate : Decimal) : Nat :=
  let point := candidate.digits * interval.denominator *
    Nat.pow 10 candidate.power.toNat
  let center := interval.center * Nat.pow 10 (-candidate.power).toNat
  max point center - min point center

/-- The grid point at or below the center, followed by the one above it. -/
def Interval.neighbors (interval : Interval) (power : Int) :
    Decimal × Decimal :=
  let digits := interval.center * Nat.pow 10 (-power).toNat /
    (interval.denominator * Nat.pow 10 power.toNat)
  (⟨digits, power⟩, ⟨digits + 1, power⟩)

/-- The first grid point is nearer to the center than the other one, or it is as
near and its last digit is even. -/
def Interval.prefers (interval : Interval) (candidate other : Decimal) : Bool :=
  interval.distance candidate < interval.distance other ||
    (interval.distance candidate = interval.distance other &&
      candidate.digits % 2 = 0)

/-- The nearer of the two neighbors on a grid that lie in the interval. -/
def Interval.onGrid? (interval : Interval) (power : Int) : Option Decimal :=
  let (below, above) := interval.neighbors power
  match interval.contains below, interval.contains above with
  | true, true =>
      if interval.prefers below above then
        some below
      else
        some above
  | true, false => some below
  | false, true => some above
  | false, false => none

/-- Tries ever finer grids; seventeen digits always suffice for a double. -/
def Interval.search (interval : Interval) (power : Int) : Nat → Decimal
  | 0 => (interval.neighbors power).1
  | attempts + 1 =>
      match interval.onGrid? power with
      | some decimal => decimal
      | none => interval.search (power - 1) attempts

/-- Whether `10 ^ power` is at most the center. -/
def Interval.reaches (interval : Interval) (power : Int) : Bool :=
  interval.denominator * Nat.pow 10 power.toNat ≤
    interval.center * Nat.pow 10 (-power).toNat

/-- The place of the leading decimal digit of the center. -/
def Interval.leadingPlace (interval : Interval) : Int :=
  let binary : Int := Nat.log2 interval.center - Nat.log2 interval.denominator
  let estimate := (binary * 30103).fdiv 100000
  if interval.reaches (estimate + 1) then
    estimate + 1
  else if interval.reaches estimate then
    estimate
  else
    estimate - 1

/-- Moves trailing zeros of the digits into the power. -/
def Decimal.trim (decimal : Decimal) : Nat → Decimal
  | 0 => decimal
  | attempts + 1 =>
      if decimal.digits % 10 = 0 ∧ decimal.digits ≠ 0 then
        Decimal.trim ⟨decimal.digits / 10, decimal.power + 1⟩ attempts
      else
        decimal

/-- The shortest decimal that rounds to `significand · 2 ^ exponent`. -/
def ofDyadic (significand : Nat) (exponent : Int) : Decimal :=
  let interval := Interval.around significand exponent
  (interval.search interval.leadingPlace 17).trim 20

/-- How a shortest decimal is written. -/
structure Layout where
  /-- The least decimal exponent that is written positionally. -/
  leastPositional : Int
  /-- The first decimal exponent that needs a power again. -/
  firstScientific : Int
  /-- Whether a single digit before a power is followed by `.0`. -/
  padsSingleDigit : Bool
  infinity : String
  negativeInfinity : String
  notANumber : String

/-- Two digits at least, after a sign that is always written. -/
def exponentText (exponent : Int) : String :=
  let magnitude := toString exponent.natAbs
  (if exponent < 0 then "-" else "+") ++
    (if magnitude.length < 2 then "0" ++ magnitude else magnitude)

/-- Lays out a positive decimal. -/
def Layout.positive (layout : Layout) (decimal : Decimal) : String :=
  let digits := (toString decimal.digits).toList
  let exponent := decimal.power + digits.length - 1
  if layout.leastPositional ≤ exponent ∧ exponent < layout.firstScientific then
    if exponent < 0 then
      "0." ++ String.ofList (List.replicate (-exponent - 1).toNat '0' ++ digits)
    else
      let wholePlaces := exponent.toNat + 1
      let padded := digits ++
        List.replicate (wholePlaces - digits.length) '0'
      let fraction := padded.drop wholePlaces
      String.ofList (padded.take wholePlaces) ++ "." ++
        (if fraction.isEmpty then "0" else String.ofList fraction)
  else
    let fraction := String.ofList (digits.drop 1)
    let point := if fraction.isEmpty then
        (if layout.padsSingleDigit then ".0" else "")
      else
        "." ++ fraction
    String.ofList (digits.take 1) ++ point ++ "e" ++ exponentText exponent

/-- The text of a double. -/
def Layout.text (layout : Layout) (x : Float) : String :=
  match x.toModel.unpack with
  | .zero .positive => "0.0"
  | .zero .negative => "-0.0"
  | .infinity .positive => layout.infinity
  | .infinity .negative => layout.negativeInfinity
  | .notANumber => layout.notANumber
  | .finite .positive mantissa exponent _ =>
      layout.positive (ofDyadic mantissa exponent)
  | .finite .negative mantissa exponent _ =>
      "-" ++ layout.positive (ofDyadic mantissa exponent)

end PaneLayout.Shortest
