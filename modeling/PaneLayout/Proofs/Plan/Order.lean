import Mathlib.Data.Set.Insert
import PaneLayout.Proofs.Plan.Unfolding

/-!
# The order of the divisions

Every division is aimed at a pane that is there by then, and it makes a pane
that is not there yet.  While the first children of a split are followed down,
no division goes past the leftmost leaf.
-/

namespace PaneLayout

/-- No pane was made below a position. -/
def Position.Untouched (known : Set Position) (position : Position) : Prop :=
  ∀ rest index, position ++ (rest ++ [index + 1]) ∉ known

namespace Division

def made (divisions : List Division) : Set Position :=
  {anchor | ∃ division ∈ divisions, division.created = anchor}

/-- The divisions can be carried out in order, from the known panes on. -/
def Feasible (leftmost : Position) : Set Position → List Division → Prop
  | _, [] => True
  | known, division :: divisions =>
      division.target.anchor ∈ known ∧ division.created ∉ known ∧
        leftmost.Reaches division.target ∧
        Feasible leftmost (insert division.created known) divisions

theorem Feasible.append {leftmost : Position} {known : Set Position}
    {first later : List Division} (feasible : Feasible leftmost known first)
    (rest : Feasible leftmost (known ∪ made first) later) :
    Feasible leftmost known (first ++ later) := by
  induction first generalizing known with
  | nil =>
      have same : known ∪ made [] = known := by
        simp [made]
      rwa [same] at rest
  | cons division first induction =>
      obtain ⟨isThere, isNew, reaches, feasible⟩ := feasible
      refine ⟨isThere, isNew, reaches, induction feasible ?_⟩
      have same : known ∪ made (division :: first) =
          insert division.created known ∪ made first := by
        ext anchor
        simp only [made, Set.mem_union, Set.mem_ofPred_eq, List.mem_cons,
          exists_eq_or_imp, Set.mem_insert_iff]
        tauto
      rwa [same] at rest

end Division

namespace Layout

open Division

variable {top : Position}

mutual

theorem length_leftmost : ∀ (position : Position) (layout : Layout),
    position.length ≤ (layout.leftmost position).length
  | _, .terminal _ => le_rfl
  | position, .split _ _ panes => length_leftmostList position panes

theorem length_leftmostList : ∀ (position : Position) (panes : List Layout),
    position.length ≤ (leftmostList position panes).length
  | _, [] => le_rfl
  | position, pane :: _ => by
      have longer := length_leftmost (position ++ [0]) pane
      rw [List.length_append] at longer
      exact Nat.le_of_succ_le longer

end

mutual

/-- The leftmost leaf takes over the pane of the layout. -/
theorem anchor_leftmost : ∀ (position : Position) (layout : Layout),
    Position.anchor (layout.leftmost position) = position.anchor
  | _, .terminal _ => rfl
  | position, .split _ _ panes => anchor_leftmostList position panes

theorem anchor_leftmostList : ∀ (position : Position) (panes : List Layout),
    Position.anchor (leftmostList position panes) = position.anchor
  | _, [] => rfl
  | position, pane :: _ =>
      (anchor_leftmost (position ++ [0]) pane).trans
        (Position.anchor_first position)

end

theorem feasible_ownDivisions {known : Set Position}
    {orientation : Orientation} {position : Position} {index : Nat}
    {panes : List Layout}
    (isThere : Position.anchor (position ++ [index]) ∈ known)
    (areNew : ∀ later, index ≤ later → position ++ [later + 1] ∉ known)
    (reaches : index = 0 → panes ≠ [] → top.Reaches (position ++ [index])) :
    Feasible top known (ownDivisions orientation position index panes) := by
  induction panes generalizing known index with
  | nil => exact trivial
  | cons pane panes induction =>
      cases panes with
      | nil => exact trivial
      | cons next rest =>
          refine ⟨isThere, areNew index le_rfl, ?_, induction ?_ ?_ nofun⟩
          · cases index with
            | zero => exact reaches rfl (List.cons_ne_nil _ _)
            | succ index =>
                intro root
                simp [Division.target, Position.anchor_later] at root
          · rw [Position.anchor_later]
            exact Set.mem_insert _ _
          · intro later above
            rw [Set.mem_insert_iff, not_or]
            refine ⟨?_, areNew later (Nat.le_of_succ_le above)⟩
            simp only [Division.created, List.append_cancel_left_eq,
              List.cons.injEq, and_true]
            omega

/-- What is made for the children of a split lies below none of them. -/
theorem untouched_ownDivisions {known : Set Position}
    {orientation : Orientation} {position : Position} {panes : List Layout}
    (untouched : position.Untouched known) (index : Nat) :
    Position.Untouched
      (known ∪ made (ownDivisions orientation position 0 panes))
      (position ++ [index]) := by
  rintro rest later (old | ⟨division, own, same⟩)
  · rw [List.append_assoc] at old
    exact untouched (index :: rest) later old
  · have parent := (ownDivisions_parent division own).1
    rw [created, parent, List.append_assoc] at same
    have lengths := congrArg List.length (List.append_cancel_left same)
    simp at lengths

/-- What is made for one child lies below no other child. -/
theorem untouched_divisions {known : Set Position} {position : Position}
    {pane : Layout} {index other : Nat} (different : index ≠ other)
    (untouched : Position.Untouched known (position ++ [other])) :
    Position.Untouched (known ∪ made (pane.divisions (position ++ [index])))
      (position ++ [other]) := by
  rintro rest later (old | ⟨division, below, same⟩)
  · exact untouched rest later old
  · obtain ⟨between, parent⟩ := divisions_parent _ pane division below
    rw [created, parent, List.append_assoc, List.append_assoc,
      List.append_assoc] at same
    exact different (List.cons.inj (List.append_cancel_left same)).1

/-- Only the first child has the root as its anchor, if its parent has. -/
theorem child_reaches {position : Position} {index : Nat} {pane : Layout}
    {panes : List Layout}
    (reaches : index = 0 → position.anchor = [] →
      (leftmostList position (pane :: panes)).length ≤ top.length)
    (root : Position.anchor (position ++ [index]) = []) :
    (pane.leftmost (position ++ [index])).length ≤ top.length := by
  cases index with
  | zero =>
      rw [Position.anchor_first] at root
      exact reaches rfl root
  | succ index => simp [Position.anchor_later] at root

mutual

/-- The divisions of a layout can be carried out once its own pane is there. -/
theorem feasible_divisions : ∀ (known : Set Position) (position : Position)
    (layout : Layout), position.anchor ∈ known → position.Untouched known →
    (position.anchor = [] →
      (layout.leftmost position).length ≤ top.length) →
    Feasible top known (layout.divisions position)
  | _, _, .terminal _, _, _, _ => trivial
  | known, position, .split orientation _ panes, isThere, untouched,
      reaches => by
      refine Feasible.append ?_ ?_
      · refine feasible_ownDivisions ?_ (fun later _ => ?_) fun _ nonempty => ?_
        · rwa [Position.anchor_first]
        · exact untouched [] later
        · intro root
          rw [Position.anchor_first] at root
          refine le_trans ?_ (reaches root)
          cases panes with
          | nil => exact absurd rfl nonempty
          | cons pane rest => exact length_leftmost (position ++ [0]) pane
      · refine feasible_divisionsList _ position 0 panes ?_
          (fun index _ => untouched_ownDivisions untouched index)
          fun _ => reaches
        intro offset inside
        rw [Nat.zero_add]
        cases offset with
        | zero =>
            rw [Position.anchor_first]
            exact .inl isThere
        | succ offset =>
            rw [Position.anchor_later]
            refine .inr ⟨_, mem_ownDivisions_iff.mpr ⟨offset, rfl, inside⟩, ?_⟩
            rw [Division.created, Nat.zero_add]

theorem feasible_divisionsList : ∀ (known : Set Position)
    (position : Position) (index : Nat) (panes : List Layout),
    (∀ offset < panes.length,
      Position.anchor (position ++ [index + offset]) ∈ known) →
    (∀ other, index ≤ other →
      Position.Untouched known (position ++ [other])) →
    (index = 0 → position.anchor = [] →
      (leftmostList position panes).length ≤ top.length) →
    Feasible top known (divisionsList position index panes)
  | _, _, _, [], _, _, _ => trivial
  | known, position, index, pane :: panes, areThere, untouched, reaches => by
      refine Feasible.append
        (feasible_divisions known (position ++ [index]) pane
          (areThere 0 (Nat.succ_pos _)) (untouched index le_rfl)
          (child_reaches reaches))
        (feasible_divisionsList _ position (index + 1) panes
          (fun offset inside => .inl ?_)
          (fun other above => untouched_divisions (Nat.ne_of_lt above)
            (untouched other (Nat.le_of_succ_le above)))
          nofun)
      rw [Nat.add_assoc, Nat.add_comm 1]
      exact areThere (offset + 1) (Nat.succ_lt_succ inside)

end

mutual

/-- No leaf lies below the leftmost one. -/
theorem leaves_reach : ∀ (position : Position) (layout : Layout),
    layout.HasChildren →
    (position.anchor = [] →
      (layout.leftmost position).length ≤ top.length) →
    ∀ leaf ∈ (layout.unfold position).leaves, top.Reaches leaf.1
  | position, .terminal _, _, reaches => by
      intro leaf member
      rw [List.mem_singleton.mp member]
      exact reaches
  | position, .split orientation _ panes, ⟨nonempty, children⟩, reaches =>
      leavesList_reach orientation position 0 panes nonempty children
        fun _ => reaches

theorem leavesList_reach (orientation : Orientation) :
    ∀ (position : Position) (index : Nat) (panes : List Layout),
    panes ≠ [] → HasChildrenList panes →
    (index = 0 → position.anchor = [] →
      (leftmostList position panes).length ≤ top.length) →
    ∀ leaf ∈ (unfoldList orientation position index panes).leaves,
      top.Reaches leaf.1
  | _, _, [], nonempty, _, _ => absurd rfl nonempty
  | position, index, [pane], _, ⟨first, _⟩, reaches =>
      leaves_reach (position ++ [index]) pane first (child_reaches reaches)
  | position, index, pane :: next :: panes, _, ⟨first, later⟩, reaches => by
      unfold unfoldList PaneTree.leaves
      rw [List.forall_mem_append]
      exact ⟨leaves_reach (position ++ [index]) pane first
          (child_reaches reaches),
        leavesList_reach orientation position (index + 1) (next :: panes)
          (List.cons_ne_nil _ _) later nofun⟩

end

end Layout

end PaneLayout
