import Mathlib.Data.List.Basic
import PaneLayout.Preset

/-!
# Trees of panes

A window whose panes were made by divisions is a binary tree.  Dividing a pane
replaces its leaf by the pane and the one that was made of it.  Several
divisions in a row replace each leaf independently of the others.
-/

namespace PaneLayout

/-- A window divided into panes, with a label for each pane. -/
inductive PaneTree (α : Type) where
  | leaf (label : α)
  | divided (orientation : Orientation) (first second : PaneTree α)
deriving Repr, DecidableEq

namespace PaneTree

variable {α β γ : Type}

/-- The labels from the first leaf to the last. -/
def leaves : PaneTree α → List α
  | .leaf label => [label]
  | .divided _ first second => first.leaves ++ second.leaves

def map (relabel : α → β) : PaneTree α → PaneTree β
  | .leaf label => .leaf (relabel label)
  | .divided orientation first second =>
      .divided orientation (first.map relabel) (second.map relabel)

/-- Replaces every leaf by a tree. -/
def bind (grow : α → PaneTree β) : PaneTree α → PaneTree β
  | .leaf label => grow label
  | .divided orientation first second =>
      .divided orientation (first.bind grow) (second.bind grow)

/-- Divides the pane with the target label. -/
def divide [DecidableEq α] (orientation : Orientation) (target created : α) :
    PaneTree α → PaneTree α
  | .leaf label =>
      if label = target then
        .divided orientation (.leaf label) (.leaf created)
      else
        .leaf label
  | .divided other first second =>
      .divided other (first.divide orientation target created)
        (second.divide orientation target created)

@[simp] theorem map_map (first : α → β) (second : β → γ) (tree : PaneTree α) :
    (tree.map first).map second = tree.map (second ∘ first) := by
  induction tree with
  | leaf label => rfl
  | divided orientation left right leftInduction rightInduction =>
      simp [map, leftInduction, rightInduction]

theorem leaves_map (relabel : α → β) (tree : PaneTree α) :
    (tree.map relabel).leaves = tree.leaves.map relabel := by
  induction tree with
  | leaf label => rfl
  | divided orientation first second firstInduction secondInduction =>
      simp [map, leaves, firstInduction, secondInduction]

theorem map_congr {relabel other : α → β} {tree : PaneTree α}
    (agree : ∀ label ∈ tree.leaves, relabel label = other label) :
    tree.map relabel = tree.map other := by
  induction tree with
  | leaf label => simp [map, agree label (by simp [leaves])]
  | divided orientation first second firstInduction secondInduction =>
      simp only [leaves, List.forall_mem_append] at agree
      rw [map, map, firstInduction agree.1, secondInduction agree.2]

theorem bind_assoc (first : α → PaneTree β) (second : β → PaneTree γ)
    (tree : PaneTree α) :
    (tree.bind first).bind second =
      tree.bind fun label => (first label).bind second := by
  induction tree with
  | leaf label => rfl
  | divided orientation left right leftInduction rightInduction =>
      simp [bind, leftInduction, rightInduction]

theorem bind_eq_self {grow : α → PaneTree α} {tree : PaneTree α}
    (unchanged : ∀ label ∈ tree.leaves, grow label = .leaf label) :
    tree.bind grow = tree := by
  induction tree with
  | leaf label => exact unchanged label (by simp [leaves])
  | divided orientation first second firstInduction secondInduction =>
      simp only [leaves, List.forall_mem_append] at unchanged
      rw [bind, firstInduction unchanged.1, secondInduction unchanged.2]

section Divide

variable [DecidableEq α] [DecidableEq β] {orientation : Orientation}
  {target created : α}

theorem divide_eq_bind (tree : PaneTree α) :
    tree.divide orientation target created =
      tree.bind fun label =>
        (PaneTree.leaf label).divide orientation target created := by
  induction tree with
  | leaf label => rfl
  | divided other first second firstInduction secondInduction =>
      rw [bind, ← firstInduction, ← secondInduction, divide]

theorem leaves_divide (tree : PaneTree α) :
    (tree.divide orientation target created).leaves =
      tree.leaves.flatMap fun label =>
        if label = target then [label, created] else [label] := by
  induction tree with
  | leaf label =>
      by_cases isTarget : label = target <;>
        simp [divide, leaves, isTarget]
  | divided other first second firstInduction secondInduction =>
      simp [divide, leaves, firstInduction, secondInduction]

/-- Dividing one of several different panes adds one pane. -/
theorem leaves_divide_perm {tree : PaneTree α}
    (member : target ∈ tree.leaves) (distinct : tree.leaves.Nodup) :
    (tree.divide orientation target created).leaves.Perm
      (created :: tree.leaves) := by
  rw [leaves_divide]
  generalize tree.leaves = labels at member distinct ⊢
  induction labels with
  | nil => cases member
  | cons label rest induction =>
      obtain ⟨notAgain, distinctRest⟩ := List.nodup_cons.mp distinct
      rw [List.flatMap_cons]
      rcases List.mem_cons.mp member with rfl | later
      · have unchanged : rest.flatMap (fun other =>
            if other = target then [other, created] else [other]) = rest :=
          calc
            _ = rest.flatMap fun other => [other] :=
              List.flatMap_congr fun other inRest =>
                if_neg (ne_of_mem_of_not_mem inRest notAgain)
            _ = rest := List.flatMap_singleton' rest
        rw [if_pos rfl, unchanged]
        exact .swap ..
      · rw [if_neg (ne_of_mem_of_not_mem later notAgain).symm]
        exact ((induction later distinctRest).cons label).trans (.swap ..)

/-- Relabelling commutes with a division if it keeps the panes apart. -/
theorem map_divide {relabel later : α → β} {tree : PaneTree α}
    (agree : ∀ label ∈ tree.leaves, later label = relabel label)
    (apart : ∀ label ∈ tree.leaves,
      relabel label = relabel target → label = target) :
    (tree.divide orientation target created).map later =
      (tree.map relabel).divide orientation (relabel target)
        (later created) := by
  induction tree with
  | leaf label =>
      have same := agree label (by simp [leaves])
      by_cases isTarget : label = target
      · rw [isTarget] at same
        simp [divide, map, isTarget, same]
      · have different : relabel label ≠ relabel target := fun equal =>
          isTarget (apart label (by simp [leaves]) equal)
        simp [divide, map, isTarget, different, same]
  | divided other first second firstInduction secondInduction =>
      simp only [leaves, List.forall_mem_append] at agree apart
      simp only [divide, map, firstInduction agree.1 apart.1,
        secondInduction agree.2 apart.2]

end Divide

end PaneTree

end PaneLayout
