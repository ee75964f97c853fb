import PaneLayout.Ratio

/-!
# Weights that may be whole numbers

Weights given by hand may mix whole numbers and doubles.  Whole numbers are
added and multiplied exactly, and become doubles where a double or a quotient is
involved.  A whole number that no finite double is near cannot take part then.

On doubles alone the rules agree with those for the weights of a ratio.
-/

namespace PaneLayout

/-- A whole number of any size, or a double. -/
inductive Number where
  | whole (value : Int)
  | double (value : Float)
deriving Repr, DecidableEq

namespace Number

/-- The double that a number is or becomes. -/
def toFloat : Number → Except Fault Float
  | .whole value => Binary64.ofInt value
  | .double value => .ok value

/-- Exact on whole numbers, a sum of doubles otherwise. -/
def add : Number → Number → Except Fault Number
  | .whole left, .whole right => .ok (.whole (left + right))
  | left, right => do return .double ((← left.toFloat) + (← right.toFloat))

/-- Exact on whole numbers, a product of doubles otherwise. -/
def mul : Number → Number → Except Fault Number
  | .whole left, .whole right => .ok (.whole (left * right))
  | left, right => do return .double ((← left.toFloat) * (← right.toFloat))

/-- The quotient as a double, rounded once also between whole numbers. -/
def div : Number → Number → Except Fault Float
  | .whole left, .whole right => Binary64.quotient left right
  | left, right => do return (← left.toFloat) / (← right.toFloat)

/-- The number is zero. -/
def isZero : Number → Bool
  | .whole value => value == 0
  | .double value => value == 0

/-- The sum from left to right, starting with the whole number zero. -/
def total (numbers : List Number) : Except Fault Number :=
  numbers.foldlM add (.whole 0)

/-- Numbers as fractions of their sum. -/
def normalize (numbers : List Number) : Except Fault (List Float) := do
  let sum ← total numbers
  if sum.isZero then
    return numbers.map fun _ => 1 / Float.ofNat numbers.length
  else
    numbers.mapM (div · sum)

/-- The nearest whole number; a half goes up. -/
def roundHalfUp (number : Number) : Except Fault Int := do
  PaneLayout.roundHalfUp (← number.toFloat)

/-- A percentage rounded and brought into the range of a split. -/
def clampPercentage (number : Number) : Except Fault Int :=
  number.roundHalfUp.map clampToSplit

/-- The percentage of a split by weights that may be whole. -/
def splitPercentage (weights : List Number) (index : Int) :
    Except Fault Int := do
  let remaining ← total (restFrom weights (index - 1))
  if remaining.isZero then
    return 50
  else
    let created ← total (restFrom weights index)
    let hundredfold ← mul (.whole 100) created
    PaneLayout.clampPercentage (← div hundredfold remaining)

end Number

end PaneLayout
