import PaneLayout.Proofs.Entries
import PaneLayout.Proofs.Plan.Position

/-!
# Pane maps that track a layout

While a layout is built, panes are made for anchors only, and the pane of any
other position is that of its anchor.  A pane map tracks the layout if it starts
with the leftmost leaf, contains nothing wrong, and has every anchor except the
root.  Then the nearest recorded ancestor of a position shares its anchor, and
where there is none, the first recorded descendant is the leftmost leaf.
-/

namespace PaneLayout

/-- The panes that were made for anchors so far. -/
abbrev Placement := Position → Option String

/-- A window of one pane, which stands for the root. -/
def Placement.start (pane : String) : Placement := fun anchor =>
  if anchor = [] then some pane else none

namespace PaneMap

/-- The map agrees with the panes made for anchors. -/
structure Tracks (panes : PaneMap) (leftmost : Position)
    (placed : Placement) : Prop where
  nonblank : ∀ anchor pane, placed anchor = some pane → pane ≠ ""
  chain : leftmost.anchor = []
  first : ∃ pane, placed [] = some pane ∧
    panes.entries.head? = some (leftmost.paneId, pane)
  sound : ∀ entry ∈ panes.entries, ∃ position : Position,
    entry.1 = position.paneId ∧ placed position.anchor = some entry.2
  complete : ∀ anchor pane, Position.anchor anchor = anchor → anchor ≠ [] →
    placed anchor = some pane → panes.entries.get? anchor.paneId = some pane

namespace Tracks

variable {panes : PaneMap} {leftmost position : Position}
  {placed : Placement} {pane : String}

theorem start (chain : leftmost.anchor = []) (nonblank : pane ≠ "") :
    (PaneMap.empty.register leftmost.paneId pane).Tracks leftmost
      (.start pane) where
  nonblank := by
    intro anchor other isPlaced
    obtain ⟨rfl, rfl⟩ : anchor = [] ∧ pane = other := by
      simpa [Placement.start] using isPlaced
    exact nonblank
  chain := chain
  first := ⟨pane, rfl, rfl⟩
  sound := by
    intro entry member
    obtain rfl := List.mem_singleton.mp member
    exact ⟨leftmost, rfl, by rw [chain]; rfl⟩
  complete := by
    intro anchor other _ notRoot isPlaced
    simp [Placement.start, notRoot] at isPlaced

/-- What is recorded under the id of a position is the pane of its anchor. -/
theorem of_entry (tracks : panes.Tracks leftmost placed)
    (found : panes.entries.get? position.paneId = some pane) :
    placed position.anchor = some pane := by
  obtain ⟨other, same, isPlaced⟩ :=
    tracks.sound _ (Entries.mem_of_get? found)
  rwa [Position.paneId_injective same]

theorem get?_eq (tracks : panes.Tracks leftmost placed)
    (position : Position) :
    panes.get? position.paneId = panes.entries.get? position.paneId := by
  rw [PaneMap.get?]
  cases found : panes.entries.get? position.paneId with
  | none => rfl
  | some pane =>
      have nonblank := tracks.nonblank _ _ (tracks.of_entry found)
      simp [Option.filter, nonblank]

theorem of_get? (tracks : panes.Tracks leftmost placed)
    (found : panes.get? position.paneId = some pane) :
    placed position.anchor = some pane :=
  tracks.of_entry ((tracks.get?_eq position).symm.trans found)

/-! ### Looking up a position -/

/-- The search above a chain of first children meets the pane of the anchor, or
passes by the whole chain. -/
theorem ofAncestor?_chain (tracks : panes.Tracks leftmost placed)
    {anchor : Position} (isAnchor : anchor.anchor = anchor)
    (isPlaced : placed anchor = some pane) (depth : Nat) :
    panes.ofAncestor?
        (Position.paneId (anchor ++ List.replicate (depth + 1) 0)) =
      some pane ∨
    panes.get? anchor.paneId = none ∧
      panes.ofAncestor?
          (Position.paneId (anchor ++ List.replicate (depth + 1) 0)) =
        panes.ofAncestor? anchor.paneId := by
  induction depth with
  | zero =>
      rw [ofAncestor?, List.replicate_one, Position.paneId_concat,
        Position.ancestors_childPaneId, List.findSome?_cons]
      cases found : panes.get? anchor.paneId with
      | none => exact .inr ⟨rfl, rfl⟩
      | some other =>
          have same := tracks.of_get? found
          rw [isAnchor, isPlaced] at same
          exact .inl same.symm
  | succ depth induction =>
      rw [ofAncestor?, List.replicate_succ', ← List.append_assoc,
        Position.paneId_concat, Position.ancestors_childPaneId,
        List.findSome?_cons]
      cases found : panes.get?
          (Position.paneId (anchor ++ List.replicate (depth + 1) 0)) with
      | none => exact induction
      | some other =>
          have same := tracks.of_get? found
          rw [Position.anchor_chain, isAnchor, isPlaced] at same
          exact .inl same.symm

/-- The first entry is found below the nodes above the leftmost leaf. -/
theorem ofDescendant?_eq (tracks : panes.Tracks leftmost placed)
    (isPlaced : placed [] = some pane) {depth : Nat}
    (above : depth < leftmost.length) :
    panes.ofDescendant? (Position.paneId (List.replicate depth 0)) =
      some pane := by
  obtain ⟨other, otherPlaced, isFirst⟩ := tracks.first
  obtain rfl : pane = other := by simpa [isPlaced] using otherPlaced
  obtain ⟨rest, entries⟩ := List.head?_eq_some_iff.mp isFirst
  obtain ⟨length, chain⟩ := leftmost.eq_anchor_append
  rw [tracks.chain, List.nil_append] at chain
  obtain ⟨more, enough⟩ : ∃ more, length = depth + (more + 1) := by
    rw [chain, List.length_replicate] at above
    exact ⟨length - depth - 1, by omega⟩
  have below : leftmost =
      List.replicate depth 0 ++ 0 :: List.replicate more 0 := by
    rw [chain, enough, ← List.replicate_append_replicate,
      List.replicate_succ]
  have isAbove := Position.isAncestor_paneId (List.replicate depth 0) 0
    (List.replicate more 0)
  rw [← below] at isAbove
  have nonblank := tracks.nonblank _ _ isPlaced
  simp [ofDescendant?, entries, isAbove, nonblank]

theorem get?_leftmost (tracks : panes.Tracks leftmost placed)
    (isPlaced : placed [] = some pane) :
    panes.get? leftmost.paneId = some pane := by
  obtain ⟨other, otherPlaced, isFirst⟩ := tracks.first
  obtain rfl : pane = other := by simpa [isPlaced] using otherPlaced
  obtain ⟨rest, entries⟩ := List.head?_eq_some_iff.mp isFirst
  rw [tracks.get?_eq, entries]
  simp [Entries.get?]

/-- The search above a position meets the pane of its anchor.  It may fail on
the way up from the leftmost leaf. -/
theorem ofAncestor?_cases (tracks : panes.Tracks leftmost placed)
    (isPlaced : placed position.anchor = some pane)
    (notFound : panes.get? position.paneId = none) :
    panes.ofAncestor? position.paneId = some pane ∨
      position.anchor = [] ∧ panes.ofAncestor? position.paneId = none := by
  have rootHasNone : panes.ofAncestor? (Position.paneId []) = none := by
    rw [ofAncestor?, Position.ancestors_root]
    rfl
  obtain ⟨depth, chain⟩ := position.eq_anchor_append
  -- Every anchor but the root is recorded under its own id.
  by_cases root : position.anchor = []
  · rw [root] at isPlaced
    rw [root, List.nil_append] at chain
    rw [chain]
    cases depth with
    | zero => exact .inr ⟨rfl, rootHasNone⟩
    | succ depth =>
        have onChain := Position.anchor_chain [] (depth + 1)
        rw [List.nil_append, Position.anchor_nil] at onChain
        rcases tracks.ofAncestor?_chain Position.anchor_nil isPlaced depth with
          found | ⟨_, passed⟩
        · exact .inl found
        · exact .inr ⟨onChain, passed.trans rootHasNone⟩
  · have recorded : panes.get? position.anchor.paneId = some pane :=
      (tracks.get?_eq _).trans
        (tracks.complete _ _ position.anchor_anchor root isPlaced)
    cases depth with
    | zero =>
        rw [List.replicate_zero, List.append_nil] at chain
        rw [← chain, notFound] at recorded
        cases recorded
    | succ depth =>
        rcases tracks.ofAncestor?_chain position.anchor_anchor isPlaced depth
          with found | ⟨unrecorded, _⟩
        · rw [chain]
          exact .inl found
        · rw [recorded] at unrecorded
          cases unrecorded

/-- A position is found with the pane of its anchor, unless it lies below the
leftmost leaf. -/
theorem lookup_eq (tracks : panes.Tracks leftmost placed)
    (isPlaced : placed position.anchor = some pane)
    (reaches : leftmost.Reaches position) :
    panes.lookup position.paneId = some pane := by
  rw [lookup]
  cases found : panes.get? position.paneId with
  | some other =>
      have same := tracks.of_get? found
      rw [isPlaced] at same
      exact same.symm
  | none =>
      rcases tracks.ofAncestor?_cases isPlaced found with
        above | ⟨root, passed⟩
      · rw [above]
        rfl
      · -- Nothing is recorded above, so the search goes down to the leftmost
        -- leaf, which was recorded first.
        rw [passed]
        rw [root] at isPlaced
        obtain ⟨depth, chain⟩ := position.eq_anchor_append
        obtain ⟨length, leftmostChain⟩ := leftmost.eq_anchor_append
        rw [root, List.nil_append] at chain
        rw [tracks.chain, List.nil_append] at leftmostChain
        have different : position ≠ leftmost := by
          rintro rfl
          rw [tracks.get?_leftmost isPlaced] at found
          cases found
        have shorter : depth < leftmost.length := by
          have lengths := reaches root
          rw [chain, List.length_replicate] at lengths
          refine lt_of_le_of_ne lengths fun same => different ?_
          rw [chain, same, leftmostChain, List.length_replicate]
        rw [chain]
        exact tracks.ofDescendant?_eq isPlaced shorter

/-! ### Recording a pane -/

theorem register_found (tracks : panes.Tracks leftmost placed)
    (isPlaced : placed position.anchor = some pane) :
    (panes.register position.paneId pane).Tracks leftmost placed where
  nonblank := tracks.nonblank
  chain := tracks.chain
  first := by
    obtain ⟨first, firstPlaced, isFirst⟩ := tracks.first
    refine ⟨first, firstPlaced, ?_⟩
    rw [register, Entries.head?_put isFirst]
    split
    · rename_i same
      have isLeftmost := Position.paneId_injective same
      rw [← isLeftmost, tracks.chain, firstPlaced] at isPlaced
      rw [Option.some.inj isPlaced]
    · rfl
  sound := by
    intro entry member
    rcases Entries.mem_put member with rfl | old
    · exact ⟨position, rfl, isPlaced⟩
    · exact tracks.sound entry old
  complete := by
    intro anchor other isAnchor notRoot otherPlaced
    rw [register, Entries.get?_put]
    split
    · rename_i same
      rw [Position.paneId_injective same, isAnchor, otherPlaced] at isPlaced
      exact isPlaced.symm
    · exact tracks.complete anchor other isAnchor notRoot otherPlaced

theorem register_new (tracks : panes.Tracks leftmost placed)
    (isAnchor : position.anchor = position) (notRoot : position ≠ [])
    (isNew : placed position = none) (nonblank : pane ≠ "") :
    (panes.register position.paneId pane).Tracks leftmost
      (Function.update placed position (some pane)) where
  nonblank := by
    intro anchor other isPlaced
    by_cases same : anchor = position
    · rw [same, Function.update_self] at isPlaced
      exact Option.some.inj isPlaced ▸ nonblank
    · rw [Function.update_of_ne same] at isPlaced
      exact tracks.nonblank anchor other isPlaced
  chain := tracks.chain
  first := by
    obtain ⟨first, firstPlaced, isFirst⟩ := tracks.first
    refine ⟨first, ?_, ?_⟩
    · rwa [Function.update_of_ne notRoot.symm]
    · rw [register, Entries.head?_put isFirst, if_neg]
      intro same
      have isLeftmost := Position.paneId_injective same
      exact notRoot (isAnchor.symm.trans (isLeftmost ▸ tracks.chain))
  sound := by
    intro entry member
    rcases Entries.mem_put member with rfl | old
    · exact ⟨position, rfl, by rw [isAnchor, Function.update_self]⟩
    · obtain ⟨other, key, isPlaced⟩ := tracks.sound entry old
      refine ⟨other, key, ?_⟩
      rwa [Function.update_of_ne]
      intro same
      rw [same, isNew] at isPlaced
      cases isPlaced
  complete := by
    intro anchor other otherIsAnchor otherNotRoot isPlaced
    rw [register, Entries.get?_put]
    split
    · rename_i same
      rw [Position.paneId_injective same, Function.update_self] at isPlaced
      exact isPlaced
    · rename_i different
      have otherPosition : anchor ≠ position := fun same =>
        different (by rw [same])
      rw [Function.update_of_ne otherPosition] at isPlaced
      exact tracks.complete anchor other otherIsAnchor otherNotRoot isPlaced

/-- A position is resolved to the pane of its anchor, and is recorded then. -/
theorem resolve_eq (tracks : panes.Tracks leftmost placed)
    (isPlaced : placed position.anchor = some pane)
    (reaches : leftmost.Reaches position) :
    panes.resolve position.paneId =
      (some pane, panes.register position.paneId pane) := by
  rw [resolve, tracks.lookup_eq isPlaced reaches]

end Tracks

end PaneMap

end PaneLayout
