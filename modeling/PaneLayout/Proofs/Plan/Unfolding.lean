import PaneLayout.Proofs.Plan.PaneTree
import PaneLayout.Proofs.Plan.Position

/-!
# The unfolding of a layout

A window can only be divided in two at a time, so a split with several children
is built from the right: its first child beside the split of the others.  The
divisions that build it divide the pane of each child to make the pane of the
next, before any child is divided itself.  Dividing a single pane in that order
gives the unfolding, and no division waits for a later one.
-/

namespace PaneLayout

/-- A pane is divided between a child of a split and the next one. -/
structure Division where
  orientation : Orientation
  parent : Position
  /-- The index of the child whose pane is divided. -/
  index : Nat
deriving Repr, DecidableEq

namespace Division

def target (division : Division) : Position :=
  division.parent ++ [division.index]

def created (division : Division) : Position :=
  division.parent ++ [division.index + 1]

/-- Carries out a division in a window whose panes stand for anchors. -/
def apply (division : Division) (window : PaneTree Position) :
    PaneTree Position :=
  window.divide division.orientation division.target.anchor division.created

/-- What becomes of one pane under several divisions. -/
def spread (divisions : List Division) (anchor : Position) :
    PaneTree Position :=
  divisions.foldl (fun window division => division.apply window) (.leaf anchor)

theorem created_isAnchor (division : Division) :
    division.created.anchor = division.created :=
  Position.anchor_later division.parent division.index

/-- Divisions treat every pane of a window on its own. -/
theorem foldl_apply (divisions : List Division) (window : PaneTree Position) :
    divisions.foldl (fun window division => division.apply window) window =
      window.bind (spread divisions) := by
  induction divisions generalizing window with
  | nil => exact (PaneTree.bind_eq_self fun _ _ => rfl).symm
  | cons division divisions induction =>
      rw [List.foldl_cons, induction, apply, PaneTree.divide_eq_bind,
        PaneTree.bind_assoc]
      refine congrArg (window.bind ·) (funext fun anchor => ?_)
      rw [spread, List.foldl_cons, induction]
      rfl

theorem spread_append (first later : List Division) (anchor : Position) :
    spread (first ++ later) anchor =
      (spread first anchor).bind (spread later) := by
  rw [spread, List.foldl_append, foldl_apply]
  rfl

theorem spread_cons (division : Division) (divisions : List Division)
    (anchor : Position) :
    spread (division :: divisions) anchor =
      (division.apply (.leaf anchor)).bind (spread divisions) :=
  spread_append [division] divisions anchor

/-- A pane that no division is aimed at is left alone. -/
theorem spread_eq_leaf {divisions : List Division} {anchor : Position}
    (spared : ∀ division ∈ divisions, anchor ≠ division.target.anchor) :
    spread divisions anchor = .leaf anchor := by
  induction divisions with
  | nil => rfl
  | cons division divisions induction =>
      obtain ⟨here, later⟩ := List.forall_mem_cons.mp spared
      rw [spread_cons, apply, PaneTree.divide, if_neg here]
      exact induction later

end Division

namespace Layout

mutual

/-- The layout as a tree of divisions, each terminal with its position. -/
def unfold (position : Position) : Layout → PaneTree (Position × Terminal)
  | .terminal leaf => .leaf (position, leaf)
  | .split orientation _ panes => unfoldList orientation position 0 panes

/-- A split of some children, the first of which has the given index.  A split
without children does not occur. -/
def unfoldList (orientation : Orientation) (position : Position)
    (index : Nat) : List Layout → PaneTree (Position × Terminal)
  | [] => .leaf (position, {})
  | [pane] => pane.unfold (position ++ [index])
  | pane :: next :: rest =>
      .divided orientation (pane.unfold (position ++ [index]))
        (unfoldList orientation position (index + 1) (next :: rest))

end

/-- The divisions of a split itself, from the child with the given index on. -/
def ownDivisions (orientation : Orientation) (position : Position) :
    Nat → List Layout → List Division
  | index, _ :: next :: rest =>
      ⟨orientation, position, index⟩ ::
        ownDivisions orientation position (index + 1) (next :: rest)
  | _, _ => []

mutual

/-- The divisions of a layout: those of a split itself, then those of its
children. -/
def divisions (position : Position) : Layout → List Division
  | .terminal _ => []
  | .split orientation _ panes =>
      ownDivisions orientation position 0 panes ++
        divisionsList position 0 panes

def divisionsList (position : Position) (index : Nat) :
    List Layout → List Division
  | [] => []
  | pane :: panes =>
      pane.divisions (position ++ [index]) ++
        divisionsList position (index + 1) panes

/-- Every split has children. -/
def HasChildren : Layout → Prop
  | .terminal _ => True
  | .split _ _ panes => panes ≠ [] ∧ HasChildrenList panes

def HasChildrenList : List Layout → Prop
  | [] => True
  | pane :: panes => pane.HasChildren ∧ HasChildrenList panes

/-- The position of the leftmost leaf. -/
def leftmost (position : Position) : Layout → Position
  | .terminal _ => position
  | .split _ _ panes => leftmostList position panes

def leftmostList (position : Position) : List Layout → Position
  | [] => position
  | pane :: _ => pane.leftmost (position ++ [0])

end

/-! ### What the divisions of a layout are aimed at -/

theorem mem_ownDivisions_iff {division : Division} {orientation : Orientation}
    {position : Position} {index : Nat} {panes : List Layout} :
    division ∈ ownDivisions orientation position index panes ↔
      ∃ offset, division = ⟨orientation, position, index + offset⟩ ∧
        offset + 1 < panes.length := by
  induction panes generalizing index with
  | nil => simp [ownDivisions]
  | cons pane panes induction =>
      cases panes with
      | nil => simp [ownDivisions]
      | cons next rest =>
          rw [ownDivisions, List.mem_cons, induction]
          constructor
          · rintro (rfl | ⟨offset, rfl, inside⟩)
            · exact ⟨0, rfl, by simp⟩
            · refine ⟨offset + 1, ?_, Nat.succ_lt_succ inside⟩
              rw [Nat.add_assoc, Nat.add_comm 1]
          · rintro ⟨offset, rfl, inside⟩
            cases offset with
            | zero => exact .inl rfl
            | succ offset =>
                refine .inr ⟨offset, ?_, Nat.lt_of_succ_lt_succ inside⟩
                rw [Nat.add_assoc, Nat.add_comm 1]

theorem ownDivisions_parent {orientation : Orientation} {position : Position}
    {index : Nat} {panes : List Layout} :
    ∀ division ∈ ownDivisions orientation position index panes,
      division.parent = position ∧ index ≤ division.index := by
  intro division member
  obtain ⟨offset, rfl, _⟩ := mem_ownDivisions_iff.mp member
  exact ⟨rfl, Nat.le_add_right index offset⟩

mutual

theorem divisions_parent : ∀ (position : Position) (layout : Layout),
    ∀ division ∈ layout.divisions position,
      ∃ rest, division.parent = position ++ rest
  | _, .terminal _ => nofun
  | position, .split orientation _ panes => by
      unfold divisions
      rw [List.forall_mem_append]
      refine ⟨fun division own => ?_, fun division below => ?_⟩
      · exact ⟨[], by simp [(ownDivisions_parent division own).1]⟩
      · obtain ⟨offset, rest, parent⟩ :=
          divisionsList_parent position 0 panes division below
        exact ⟨_, parent⟩

theorem divisionsList_parent : ∀ (position : Position) (index : Nat)
    (panes : List Layout), ∀ division ∈ divisionsList position index panes,
      ∃ offset rest, division.parent = position ++ (index + offset) :: rest
  | _, _, [] => nofun
  | position, index, pane :: panes => by
      unfold divisionsList
      rw [List.forall_mem_append]
      refine ⟨fun division first => ?_, fun division later => ?_⟩
      · obtain ⟨rest, parent⟩ := divisions_parent _ pane division first
        exact ⟨0, rest, by simpa using parent⟩
      · obtain ⟨offset, rest, parent⟩ :=
          divisionsList_parent position (index + 1) panes division later
        exact ⟨offset + 1, rest, by rw [parent, Nat.add_assoc, Nat.add_comm 1]⟩

end

mutual

theorem unfold_position : ∀ (position : Position) (layout : Layout),
    layout.HasChildren → ∀ leaf ∈ (layout.unfold position).leaves,
      ∃ rest, leaf.1 = position ++ rest
  | position, .terminal _, _ => by simp [unfold, PaneTree.leaves]
  | position, .split orientation _ panes, ⟨nonempty, children⟩ => by
      intro leaf member
      obtain ⟨offset, rest, below⟩ := unfoldList_position orientation position
        0 panes nonempty children leaf member
      exact ⟨_, below⟩

theorem unfoldList_position (orientation : Orientation) :
    ∀ (position : Position) (index : Nat) (panes : List Layout),
      panes ≠ [] → HasChildrenList panes →
      ∀ leaf ∈ (unfoldList orientation position index panes).leaves,
        ∃ offset rest, leaf.1 = position ++ (index + offset) :: rest
  | _, _, [], nonempty, _ => absurd rfl nonempty
  | position, index, [pane], _, ⟨first, _⟩ => by
      intro leaf member
      obtain ⟨rest, below⟩ := unfold_position _ pane first leaf member
      exact ⟨0, rest, by simpa using below⟩
  | position, index, pane :: next :: panes, _, ⟨first, later⟩ => by
      unfold unfoldList PaneTree.leaves
      rw [List.forall_mem_append]
      refine ⟨fun leaf member => ?_, fun leaf member => ?_⟩
      · obtain ⟨rest, below⟩ := unfold_position _ pane first leaf member
        exact ⟨0, rest, by simpa using below⟩
      · obtain ⟨offset, rest, below⟩ := unfoldList_position orientation
          position (index + 1) (next :: panes) (List.cons_ne_nil _ _) later
          leaf member
        exact ⟨offset + 1, rest, by rw [below, Nat.add_assoc, Nat.add_comm 1]⟩

end

/-! ### Carrying out the divisions of a layout -/

/-- The tree of a layout with the panes of its leaves. -/
def anchored (tree : PaneTree (Position × Terminal)) : PaneTree Position :=
  tree.map fun leaf => leaf.1.anchor

/-- The divisions of a split itself put its children in a row. -/
theorem spread_ownDivisions {orientation : Orientation} {position : Position}
    {index : Nat} {panes : List Layout} (nonempty : panes ≠ [])
    {grow : Position → PaneTree Position}
    (grown : ∀ offset pane, panes[offset]? = some pane →
      grow (Position.anchor (position ++ [index + offset])) =
        anchored (pane.unfold (position ++ [index + offset]))) :
    (Division.spread (ownDivisions orientation position index panes)
      (Position.anchor (position ++ [index]))).bind grow =
        anchored (unfoldList orientation position index panes) := by
  induction panes generalizing index with
  | nil => exact absurd rfl nonempty
  | cons pane panes induction =>
      have first := grown 0 pane rfl
      cases panes with
      | nil => exact first
      | cons next rest =>
          -- The pane of the first child is not divided again, and that of the
          -- next one is divided among the others.
          have spared : Division.spread
              (ownDivisions orientation position (index + 1) (next :: rest))
              (Position.anchor (position ++ [index])) =
                .leaf (Position.anchor (position ++ [index])) := by
            refine Division.spread_eq_leaf fun division member same => ?_
            obtain ⟨parent, above⟩ := ownDivisions_parent division member
            rw [Division.target, parent] at same
            have equal := Position.children_apart same
            omega
          have others := @induction (index + 1) (List.cons_ne_nil _ _)
            fun offset pane found => by
              rw [Nat.add_assoc, Nat.add_comm 1]
              exact grown (offset + 1) pane found
          rw [Position.anchor_later] at others
          rw [ownDivisions, Division.spread_cons, Division.apply,
            Division.target, PaneTree.divide, if_pos rfl, PaneTree.bind,
            PaneTree.bind, PaneTree.bind, spared, PaneTree.bind,
            PaneTree.bind, Division.created, others]
          exact congrArg (PaneTree.divided orientation · _) first

mutual

theorem spread_divisions : ∀ (position : Position) (layout : Layout),
    layout.HasChildren →
    Division.spread (layout.divisions position) position.anchor =
      anchored (layout.unfold position)
  | _, .terminal _, _ => rfl
  | position, .split orientation _ panes, ⟨nonempty, children⟩ => by
      rw [divisions, Division.spread_append, unfold,
        ← Position.anchor_first position]
      refine spread_ownDivisions nonempty fun offset pane found => ?_
      exact spread_divisionsList position 0 panes children offset pane found

theorem spread_divisionsList : ∀ (position : Position) (index : Nat)
    (panes : List Layout), HasChildrenList panes →
    ∀ offset pane, panes[offset]? = some pane →
      Division.spread (divisionsList position index panes)
          (Position.anchor (position ++ [index + offset])) =
        anchored (pane.unfold (position ++ [index + offset]))
  | _, _, [], _ => nofun
  | position, index, first :: panes, ⟨firstHas, children⟩ => by
      intro offset pane found
      rw [divisionsList, Division.spread_append]
      cases offset with
      | zero =>
          obtain rfl : first = pane := by simpa using found
          simp only [Nat.add_zero]
          rw [spread_divisions (position ++ [index]) first firstHas]
          refine PaneTree.bind_eq_self fun anchor member => ?_
          rw [anchored, PaneTree.leaves_map, List.mem_map] at member
          obtain ⟨leaf, isLeaf, rfl⟩ := member
          obtain ⟨rest, below⟩ := unfold_position _ first firstHas leaf isLeaf
          refine Division.spread_eq_leaf fun division later same => ?_
          obtain ⟨more, otherRest, parent⟩ :=
            divisionsList_parent position (index + 1) panes division later
          rw [below, Division.target, parent, List.append_assoc,
            List.append_assoc] at same
          have equal := Position.children_apart same
          omega
      | succ offset =>
          have spared : Division.spread (first.divisions (position ++ [index]))
              (Position.anchor (position ++ [index + (offset + 1)])) =
                .leaf (Position.anchor
                  (position ++ [index + (offset + 1)])) := by
            refine Division.spread_eq_leaf fun division member same => ?_
            obtain ⟨rest, parent⟩ := divisions_parent _ first division member
            rw [Division.target, parent, List.append_assoc,
              List.append_assoc] at same
            have equal := Position.children_apart same
            omega
          rw [spared, PaneTree.bind, Nat.add_comm offset, ← Nat.add_assoc]
          exact spread_divisionsList position (index + 1) panes children
            offset pane found

end

end Layout

end PaneLayout
