import Mathlib.Data.List.DropRight
import PaneLayout.PaneMap
import PaneLayout.Plan

/-!
# Positions of nodes

A node of a layout stands at a position, the indices that lead to it from the
root, and its id spells that position.  Pane maps only see the ids, so what they
do with ids is traced back to positions here.

The first child of a split takes over the pane of the split.  The pane of a node
was therefore made for its anchor, the lowest node above it, or the node itself,
that is not a first child.
-/

namespace PaneLayout

/-- The indices that lead to a node from the root. -/
abbrev Position := List Nat

namespace Position

def paneId (position : Position) : String :=
  position.foldl (fun id (index : Nat) => childPaneId id index) rootPaneId

theorem childPaneId_eq (parent : String) (index : Nat) :
    childPaneId parent index = parent ++ "." ++ toString index := rfl

theorem paneId_concat (position : Position) (index : Nat) :
    paneId (position ++ [index]) = childPaneId position.paneId index := by
  simp [paneId]

theorem paneId_below (position : Position) (index : Nat) (rest : Position) :
    ∃ suffix, paneId (position ++ index :: rest) =
      position.paneId ++ "." ++ suffix := by
  induction rest using List.reverseRecOn with
  | nil => exact ⟨_, paneId_concat position index⟩
  | append_singleton rest last induction =>
      obtain ⟨suffix, below⟩ := induction
      have longer : position ++ index :: (rest ++ [last]) =
          (position ++ index :: rest) ++ [last] := by simp
      refine ⟨suffix ++ "." ++ toString last, ?_⟩
      rw [longer, paneId_concat, below, childPaneId_eq]
      simp only [String.append_assoc]

theorem paneId_ne_empty (position : Position) : position.paneId ≠ "" := by
  induction position using List.reverseRecOn with
  | nil => decide
  | append_singleton position index _ =>
      rw [paneId_concat, childPaneId]
      intro empty
      have same := congrArg String.toList empty
      simp at same

/-! ### Ids above an id -/

theorem partsBeforeDots_eq_nil {text : List Char} (noDot : '.' ∉ text) :
    PaneMap.partsBeforeDots text = [] := by
  induction text with
  | nil => rfl
  | cons c rest induction =>
      rw [List.mem_cons, not_or] at noDot
      obtain ⟨different, noDotRest⟩ := noDot
      simp [PaneMap.partsBeforeDots, induction noDotRest, Ne.symm different]

theorem partsBeforeDots_append {last : List Char} (noDot : '.' ∉ last)
    (text : List Char) :
    PaneMap.partsBeforeDots (text ++ '.' :: last) =
      PaneMap.partsBeforeDots text ++ [text] := by
  induction text with
  | nil => simp [PaneMap.partsBeforeDots, partsBeforeDots_eq_nil noDot]
  | cons c rest induction =>
      by_cases dot : c = '.' <;>
        simp [PaneMap.partsBeforeDots, induction, dot]

theorem not_mem_toString {c : Char} (noDigit : c.isDigit = false)
    (index : Nat) : c ∉ (toString index).toList := by
  intro member
  rw [Nat.toString_eq_repr, Nat.toList_repr] at member
  have digit := Nat.isDigit_of_mem_toDigits (by decide) (by decide) member
  rw [noDigit] at digit
  cases digit

/-- What stands above a child is its parent and what stands above that. -/
theorem ancestors_childPaneId (parent : String) (index : Nat) :
    PaneMap.ancestors (childPaneId parent index) =
      parent :: PaneMap.ancestors parent := by
  have written : (childPaneId parent index).toList =
      parent.toList ++ '.' :: (toString index).toList := by
    rw [childPaneId_eq]
    simp
  rw [PaneMap.ancestors, written,
    partsBeforeDots_append (not_mem_toString rfl index)]
  simp [PaneMap.ancestors]

theorem ancestors_root : PaneMap.ancestors (paneId []) = [] := by
  decide

theorem isAncestor_paneId (position : Position) (index : Nat)
    (rest : Position) :
    PaneMap.isAncestor position.paneId (paneId (position ++ index :: rest)) =
      true := by
  obtain ⟨suffix, below⟩ := paneId_below position index rest
  rw [PaneMap.isAncestor, below, List.isPrefixOf_iff_prefix]
  exact ⟨suffix.toList, by simp⟩

theorem toString_injective {index other : Nat}
    (same : toString index = toString other) : index = other := by
  have digits : Nat.toDigits 10 index = Nat.toDigits 10 other := by
    simpa only [Nat.toString_eq_repr, Nat.toList_repr] using
      congrArg String.toList same
  simpa using congrArg (fun digits => Nat.ofDigitChars 10 digits 0) digits

theorem paneId_injective : Function.Injective paneId := by
  intro position
  induction position using List.reverseRecOn with
  | nil =>
      intro other same
      induction other using List.reverseRecOn with
      | nil => rfl
      | append_singleton other index _ =>
          have above := congrArg PaneMap.ancestors same
          rw [paneId_concat, ancestors_childPaneId] at above
          cases ancestors_root.symm.trans above
  | append_singleton position index induction =>
      intro other same
      induction other using List.reverseRecOn with
      | nil =>
          have above := congrArg PaneMap.ancestors same
          rw [paneId_concat, ancestors_childPaneId] at above
          cases above.trans ancestors_root
      | append_singleton other otherIndex _ =>
          have above := congrArg PaneMap.ancestors same
          simp only [paneId_concat, ancestors_childPaneId,
            List.cons.injEq] at above
          have indices : toString index = toString otherIndex := by
            simpa only [paneId_concat, childPaneId_eq, above.1,
              String.append_right_inj] using same
          rw [induction above.1, toString_injective indices]

/-! ### Anchors -/

/-- The position whose pane a position takes over. -/
def anchor (position : Position) : Position :=
  position.rdropWhile (· == 0)

theorem anchor_nil : anchor [] = [] := rfl

theorem anchor_first (position : Position) :
    anchor (position ++ [0]) = position.anchor := by
  simp [anchor]

theorem anchor_later (position : Position) (index : Nat) :
    anchor (position ++ [index + 1]) = position ++ [index + 1] := by
  simp [anchor]

/-- A position is the end of a chain of first children below its anchor. -/
theorem eq_anchor_append (position : Position) :
    ∃ depth, position = position.anchor ++ List.replicate depth 0 := by
  induction position using List.reverseRecOn with
  | nil => exact ⟨0, rfl⟩
  | append_singleton position index induction =>
      cases index with
      | zero =>
          obtain ⟨depth, chain⟩ := induction
          refine ⟨depth + 1, ?_⟩
          rw [anchor_first, List.replicate_succ', ← List.append_assoc,
            ← chain]
      | succ index => exact ⟨0, by simp [anchor_later]⟩

theorem anchor_chain (position : Position) (depth : Nat) :
    anchor (position ++ List.replicate depth 0) = position.anchor := by
  induction depth with
  | zero => simp
  | succ depth induction =>
      rw [List.replicate_succ', ← List.append_assoc, anchor_first, induction]

theorem anchor_anchor (position : Position) :
    anchor position.anchor = position.anchor := by
  obtain ⟨depth, chain⟩ := position.eq_anchor_append
  conv_rhs => rw [chain, anchor_chain]

/-- The position lies on the way down to the leftmost leaf, if its anchor is the
root. -/
def Reaches (leftmost position : Position) : Prop :=
  position.anchor = [] → position.length ≤ leftmost.length

/-- Different children of a node have nothing below them that shares an
anchor. -/
theorem children_apart {position rest otherRest : Position}
    {index other : Nat}
    (same : anchor (position ++ index :: rest) =
      anchor (position ++ other :: otherRest)) : index = other := by
  obtain ⟨depth, chain⟩ := eq_anchor_append (position ++ index :: rest)
  obtain ⟨otherDepth, otherChain⟩ :=
    eq_anchor_append (position ++ other :: otherRest)
  rw [same] at chain
  generalize anchor (position ++ other :: otherRest) = top at chain otherChain
  rcases Nat.le_total depth otherDepth with shorter | shorter
  · obtain ⟨more, rfl⟩ := Nat.exists_eq_add_of_le shorter
    rw [← List.replicate_append_replicate, ← List.append_assoc, ← chain,
      List.append_assoc] at otherChain
    exact (List.cons.inj (List.append_cancel_left otherChain)).1.symm
  · obtain ⟨more, rfl⟩ := Nat.exists_eq_add_of_le shorter
    rw [← List.replicate_append_replicate, ← List.append_assoc,
      ← otherChain, List.append_assoc] at chain
    exact (List.cons.inj (List.append_cancel_left chain)).1

end Position

end PaneLayout
