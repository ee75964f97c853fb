import PaneLayout.Failure
import PaneLayout.Number.Position
import PaneLayout.Number.Total
import PaneLayout.Text.Digit
import PaneLayout.Value.Display

/-!
# Ratios

A split divides its area by a ratio.  Each entry of a ratio is a weight or a
fixed number of cells.  Weights are shares of what the fixed entries leave over.

A ratio of weights alone is replayed by percentages, each of the area that is
left when its pane is made.  A ratio with fixed entries is replayed by cell
counts, which need the live size of the pane that is divided.
-/

namespace PaneLayout

/-- The part of a split that one child gets. -/
inductive RatioEntry where
  /-- A share of the area that the fixed entries leave. -/
  | weight (value : Float)
  /-- A fixed number of cells. -/
  | cells (count : Nat) (positive : 0 < count)
deriving Repr, DecidableEq

namespace RatioEntry

/-- The weight of a weighted entry. -/
def weight? : RatioEntry → Option Float
  | .weight value => some value
  | .cells _ _ => none

/-- The count of a fixed entry. -/
def cells? : RatioEntry → Option Nat
  | .weight _ => none
  | .cells count _ => some count

/-- The digits of a token such as `30c`: blanks, decimal digits, blanks, the
letter, blanks, and nothing else. -/
def tokenDigits? (token : List Char) : Option (List Char) :=
  let body := token.dropWhile isBlank
  let digits := body.takeWhile isDecimalDigit
  match (body.dropWhile isDecimalDigit).dropWhile isBlank with
  | 'c' :: rest =>
      if !digits.isEmpty && rest.all isBlank then some digits else none
  | _ => none

/-- A fixed entry, if the count is positive. -/
def ofCount (count : Nat) : Option RatioEntry :=
  if positive : 0 < count then some (.cells count positive) else none

/-- A weighted entry, if the weight is finite and positive. -/
def ofWeight (value : Float) : Option RatioEntry :=
  if value.isFinite && !(value ≤ 0) then some (.weight value) else none

/-- Reads an entry of a document: a finite positive number that is no boolean,
or a token of a positive number of cells. -/
def parse : Value → Except Fault (Option RatioEntry)
  | .int value => return ofWeight (← Binary64.ofInt value)
  | .float value => return ofWeight value
  | .text token =>
      match tokenDigits? token.toList with
      | none => return none
      | some digits => return ofCount (← readDigits digits)
  | _ => return none

/-- The record of an entry: a weight is its double. -/
def toValue : RatioEntry → Value
  | .weight value => .float value
  | .cells count _ =>
      .mapping [(.text "kind", .text "fixed-cells"), (.text "cells", .int count)]

end RatioEntry

/-- What each child of a split gets, in order. -/
abbrev Ratio := List RatioEntry

namespace Ratio

/-- The weights of a ratio in order. -/
def weights (ratio : Ratio) : List Float :=
  ratio.filterMap RatioEntry.weight?

/-- The fixed counts of a ratio in order. -/
def fixedCells (ratio : Ratio) : List Nat :=
  ratio.filterMap RatioEntry.cells?

/-- Some entry is fixed. -/
def hasFixedCells (ratio : Ratio) : Bool :=
  ratio.any fun entry => entry.cells?.isSome

end Ratio

/-- The sum of weights, added from left to right. -/
def totalWeight (weights : List Float) : Float :=
  weights.foldl (· + ·) 0

/-- Weights as fractions of their sum.  Weights that add up to zero count as
equal shares. -/
def normalizeWeights (weights : List Float) : List Float :=
  let total := totalWeight weights
  if total == 0 then
    weights.map fun _ => 1 / Float.ofNat weights.length
  else
    weights.map (· / total)

namespace Ratio

/-- A ratio with its weights replaced in order. -/
def withWeights : Ratio → List Float → Ratio
  | [], _ => []
  | .cells count positive :: entries, weights =>
      .cells count positive :: withWeights entries weights
  | .weight _ :: entries, weight :: weights =>
      .weight weight :: withWeights entries weights
  | .weight value :: entries, [] => .weight value :: withWeights entries []

/-- A ratio whose weights are fractions of their sum. -/
def normalize (ratio : Ratio) : Ratio :=
  ratio.withWeights (normalizeWeights ratio.weights)

end Ratio

/-- The nearest whole number; a half goes up. -/
def roundHalfUp (value : Float) : Except Fault Int :=
  Binary64.floor (value + 0.5)

/-- The least and the greatest percentage that a split can be given. -/
def leastPercentage : Int := 1
def greatestPercentage : Int := 99

/-- A whole percentage brought into the range of a split. -/
def clampToSplit (percentage : Int) : Int :=
  min greatestPercentage (max leastPercentage percentage)

/-- A percentage rounded and brought into the range of a split. -/
def clampPercentage (value : Float) : Except Fault Int :=
  (roundHalfUp value).map clampToSplit

/-- The percentage that the pane made by a split gets of the pane it divides.
That pane holds the entries from `index - 1` on and keeps the first of them. -/
def splitPercentage (weights : List Float) (index : Int) : Except Fault Int :=
  let remaining := totalWeight (restFrom weights (index - 1))
  if remaining == 0 then
    .ok 50
  else
    clampPercentage (100 * totalWeight (restFrom weights index) / remaining)

/-- How a split of a ratio with fixed entries is sized: the entry that stays in
the divided pane, and what the new pane has to hold. -/
structure DynamicSizing where
  target : RatioEntry
  remainingCells : Int
  remainingWeight : Float
  remainingWeightCount : Int
deriving Repr, DecidableEq

/-- The sizing of one split of a ratio. -/
def Ratio.dynamicSizing (ratio : Ratio) (index : Int) :
    Except Fault DynamicSizing :=
  let rest : Ratio := restFrom ratio index
  match elementAt? ratio (index - 1) with
  | none => .error .missingElement
  | some target =>
      .ok {
        target
        remainingCells := total rest.fixedCells
        remainingWeight := totalWeight rest.weights
        remainingWeightCount := rest.weights.length }

/-- The cells on the two sides of a split. -/
structure CellSplit where
  target : Int
  created : Int
deriving Repr, DecidableEq

/-- Why a split has no cell counts. -/
inductive SizeError where
  /-- The size of the pane is unknown or not positive. -/
  | unknownSize
  /-- One of the two panes would have no cell. -/
  | tooSmall
  | fault (cause : Fault)
deriving Repr, DecidableEq

namespace DynamicSizing

/-- The cells that stay in a pane of the given size. -/
def targetCells (sizing : DynamicSizing) (paneCells : Int) : Except Fault Int :=
  match sizing.target with
  | .cells count _ => .ok count
  | .weight weight =>
      let weightedCells := paneCells - sizing.remainingCells
      let total := weight + sizing.remainingWeight
      if 0 < total then do
        roundHalfUp ((← Binary64.ofInt weightedCells) * weight / total)
      else
        .ok weightedCells

/-- The cell counts of a split of a pane, whose size may be unknown. -/
def resolve (sizing : DynamicSizing) (paneCells : Option Int) :
    Except SizeError CellSplit :=
  match paneCells with
  | none => .error .unknownSize
  | some cells =>
      if cells ≤ 0 then
        .error .unknownSize
      else
        match sizing.targetCells cells with
        | .error cause => .error (.fault cause)
        | .ok target =>
            let created := cells - target
            if target < 1 ∨ created < 1 then
              .error .tooSmall
            else
              .ok ⟨target, created⟩

/-- What a failed resolution tells about the sizes. -/
def details (sizing : DynamicSizing) (paneCells : Option Int) : Entries Value :=
  [("pane_cells", match paneCells with
      | some cells => .int cells
      | none => .null),
    ("remaining_fixed_cells", .int sizing.remainingCells),
    ("remaining_weight", .float sizing.remainingWeight)]

/-- The failure of a step whose split has no cell counts. -/
def sizeFailure (sizing : DynamicSizing) (paneCells : Option Int)
    (stepId message : String) : Failure where
  stage := "execution"
  code := "SPLIT_SIZE_RESOLUTION_FAILED"
  message
  path := some stepId
  details := sizing.details paneCells

/-- The problem that a size error is for a step. -/
def problem (sizing : DynamicSizing) (paneCells : Option Int)
    (stepId : String) : SizeError → Problem
  | .unknownSize => .failure <| sizing.sizeFailure paneCells stepId
      "Pane size is required to resolve a fixed-cell split"
  | .tooSmall =>
      match wholeText (paneCells.getD 0) with
      | .error cause => .fault cause
      | .ok cells => .failure <| sizing.sizeFailure paneCells stepId <|
          "Pane of " ++ cells ++ " cells is too small for the requested split"
  | .fault cause => .fault cause

/-- The record of a dynamic sizing. -/
def toValue (sizing : DynamicSizing) : Value :=
  .mapping [
    (.text "mode", .text "dynamic-cells"),
    (.text "target", sizing.target.toValue),
    (.text "remaining_fixed_cells", .int sizing.remainingCells),
    (.text "remaining_weight", .float sizing.remainingWeight),
    (.text "remaining_weight_pane_count", .int sizing.remainingWeightCount)]

end DynamicSizing

end PaneLayout
