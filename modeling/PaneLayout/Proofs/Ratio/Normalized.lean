import PaneLayout.Proofs.Ratio.Sizing

/-!
# Ratios with other weights

Normalizing takes the weights out of a ratio, turns them into shares and puts
those back in order.  A weight at an index comes after as many weights as there
are before that index.  Its share stands behind as many shares, and so it comes
back to the same index, however weights and fixed entries alternate.
-/

namespace PaneLayout

/-- The entry with another weight, if it has a weight and there is another. -/
def RatioEntry.reweighed : RatioEntry → Option Float → RatioEntry
  | .weight value, other => .weight (other.getD value)
  | .cells count positive, _ => .cells count positive

namespace Ratio

/-- How many weights there are before an index. -/
def weightsBefore (ratio : Ratio) (index : Nat) : Nat :=
  (weights (ratio.take index)).length

/-- The weights of a ratio are replaced by others, one for one and in order, and
nothing else is changed. -/
structure Refills (ratio : Ratio) (others : List Float) (refilled : Ratio) :
    Prop where
  length : refilled.length = ratio.length
  cells_iff : ∀ (index count : Nat) (positive : 0 < count),
    refilled[index]? = some (.cells count positive) ↔
      ratio[index]? = some (.cells count positive)
  /-- A weight is the one of its rank, and another one of that rank is there to
  replace it. -/
  weight : ∀ (index : Nat) (value : Float),
    ratio[index]? = some (.weight value) →
    ratio.weights[ratio.weightsBefore index]? = some value ∧
    ∃ other, others[ratio.weightsBefore index]? = some other ∧
      refilled[index]? = some (.weight other)
  /-- No other weight is left over. -/
  weights_eq : refilled.weights = others

theorem length_withWeights (ratio : Ratio) (weights : List Float) :
    (ratio.withWeights weights).length = ratio.length := by
  fun_induction withWeights ratio weights with
  | case1 => rfl
  | case2 count positive entries weights same => exact congrArg (· + 1) same
  | case3 value entries weight weights same => exact congrArg (· + 1) same
  | case4 value entries same => exact congrArg (· + 1) same

theorem fixedCells_withWeights (ratio : Ratio) (weights : List Float) :
    (ratio.withWeights weights).fixedCells = ratio.fixedCells := by
  fun_induction withWeights ratio weights with
  | case1 => rfl
  | case2 count positive entries weights same =>
      exact congrArg (count :: ·) same
  | case3 value entries weight weights same => exact same
  | case4 value entries same => exact same

theorem getElem?_weights {ratio : Ratio} {index : Nat} {value : Float}
    (found : ratio[index]? = some (.weight value)) :
    ratio.weights[ratio.weightsBefore index]? = some value := by
  induction ratio generalizing index with
  | nil => cases found
  | cons entry ratio induction =>
      cases index with
      | zero =>
          cases found
          rfl
      | succ index =>
          cases entry with
          | weight first => exact induction found
          | cells count positive => exact induction found

/-- The weights before an index are as many as have been used up there. -/
theorem getElem?_withWeights (ratio : Ratio) (others : List Float)
    (index : Nat) :
    (ratio.withWeights others)[index]? = ratio[index]?.map fun entry =>
      entry.reweighed others[ratio.weightsBefore index]? := by
  fun_induction withWeights ratio others generalizing index with
  | case1 => rfl
  | case2 count positive entries others rest =>
      cases index with
      | zero => rfl
      | succ index => exact rest index
  | case3 value entries other others rest =>
      cases index with
      | zero => rfl
      | succ index => exact rest index
  | case4 value entries rest =>
      cases index with
      | zero => rfl
      | succ index => exact rest index

theorem refills_withWeights {ratio : Ratio} {others : List Float}
    (same : others.length = ratio.weights.length) :
    ratio.Refills others (ratio.withWeights others) where
  length := length_withWeights ratio others
  cells_iff := by
    intro index count positive
    rw [getElem?_withWeights]
    cases ratio[index]? with
    | none => exact Iff.rfl
    | some entry => cases entry <;> simp [RatioEntry.reweighed]
  weight := by
    intro index value found
    have ranked := getElem?_weights found
    obtain ⟨inside, -⟩ := List.getElem?_eq_some_iff.mp ranked
    have other := List.getElem?_eq_getElem (same ▸ inside)
    refine ⟨ranked, _, other, ?_⟩
    rw [getElem?_withWeights, found, other]
    rfl
  weights_eq := weights_withWeights same

theorem refills_normalize (ratio : Ratio) :
    ratio.Refills (normalizeWeights ratio.weights) ratio.normalize :=
  refills_withWeights (length_normalizeWeights ratio.weights)

theorem weights_normalize_ne_nil {ratio : Ratio}
    (weighted : ratio.weights ≠ []) : ratio.normalize.weights ≠ [] := by
  rw [(refills_normalize ratio).weights_eq, ← List.length_pos_iff,
    length_normalizeWeights]
  exact List.length_pos_iff.mpr weighted

end Ratio

end PaneLayout
