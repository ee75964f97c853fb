import PaneLayout.Fault

/-!
# Exact readings of binary64 numbers

A finite double is a signed significand times a power of two.  Read that way,
rounding, truncation and comparison with whole numbers become arithmetic on
integers.  The conversions to doubles round to nearest, and they fail instead
of answering an infinity.
-/

namespace PaneLayout

open Float.Model

/-- A whole significand times a power of two. -/
structure Dyadic where
  significand : Int
  exponent : Int
deriving Repr, BEq, DecidableEq

namespace Dyadic

/-- The greatest whole number that is not above the value. -/
def floor (value : Dyadic) : Int :=
  if 0 ≤ value.exponent then
    value.significand * Int.pow 2 value.exponent.toNat
  else
    value.significand.fdiv (Int.pow 2 (-value.exponent).toNat)

/-- The whole number left when the fraction is dropped. -/
def truncate (value : Dyadic) : Int :=
  if 0 ≤ value.exponent then
    value.significand * Int.pow 2 value.exponent.toNat
  else
    value.significand.tdiv (Int.pow 2 (-value.exponent).toNat)

/-- The value itself when it is whole. -/
def whole? (value : Dyadic) : Option Int :=
  if 0 ≤ value.exponent then
    some (value.significand * Int.pow 2 value.exponent.toNat)
  else
    let unit := Int.pow 2 (-value.exponent).toNat
    if value.significand.tmod unit = 0 then
      some (value.significand.tdiv unit)
    else
      none

end Dyadic

namespace Binary64

/-- The exact value of a finite double. -/
def dyadic? (x : Float) : Option Dyadic :=
  match x.toModel.unpack with
  | .zero _ => some ⟨0, 0⟩
  | .finite sign mantissa exponent _ => some ⟨sign.apply mantissa, exponent⟩
  | .infinity _ => none
  | .notANumber => none

/-- The greatest whole number that is not above a double. -/
def floor (x : Float) : Except Fault Int :=
  match dyadic? x with
  | some value => .ok value.floor
  | none => .error (if x.isNaN then .undefinedToWhole else .infinityToWhole)

/-- A double without its fraction. -/
def truncate (x : Float) : Except Fault Int :=
  match dyadic? x with
  | some value => .ok value.truncate
  | none => .error (if x.isNaN then .undefinedToWhole else .infinityToWhole)

/-- The whole number that a double equals, if there is one. -/
def whole? (x : Float) : Option Int :=
  (dyadic? x).bind Dyadic.whole?

private def finiteOrTooLarge (x : Float) : Except Fault Float :=
  if x.isFinite then .ok x else .error .numberTooLarge

/-- The double nearest to a whole number. -/
def ofInt (n : Int) : Except Fault Float :=
  finiteOrTooLarge (Float.ofInt n)

private def unpackedInt (n : Int) : UnpackedFloat :=
  if positive : 0 < n.natAbs then
    .finite (if n < 0 then .negative else .positive) n.natAbs 0 positive
  else
    .zero .positive

/-- The double nearest to the quotient of two whole numbers, rounded once. -/
def quotient (numerator denominator : Int) : Except Fault Float :=
  finiteOrTooLarge <| .ofModel <| .pack <|
    .div .binary64 (unpackedInt numerator) (unpackedInt denominator)

/-- The three doubles that are not finite. -/
def infinity : Float := Float.ofBits 0x7FF0000000000000
def negativeInfinity : Float := Float.ofBits 0xFFF0000000000000
def notANumber : Float := Float.ofBits 0x7FF8000000000000

end Binary64

end PaneLayout
