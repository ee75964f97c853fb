import PaneLayout.Proofs.Compile.Placed
import PaneLayout.Proofs.Plan.Recorded
import PaneLayout.Proofs.Plan.Refused

/-!
# The ratios of a plan

The node of a plan at a position was planned from the node of the layout there.
So the ratio of a split is the normalized one of a split of the layout, which was
read in the document, and it has the shape that the document gives it.
-/

namespace PaneLayout

/-! ### Planned nodes -/

namespace Layout

/-- How a node was planned that is a split. -/
theorem split_of_planned {id path splitId : String} {layout : Layout}
    {orientation : Orientation} {ratio : Ratio} {nodes : List PlanNode}
    (planned : layout.planned id path =
      .ok (.split splitId orientation ratio nodes)) :
    ∃ given panes, layout = .split orientation given panes ∧
      ¬ given.IsFixedOnly ∧ ratio = given.normalize ∧
      plannedList id path 0 panes = .ok nodes := by
  cases layout with
  | terminal leaf => cases planned
  | split orientation given panes =>
      obtain ⟨nodes, weighted, plannedPanes, made⟩ :=
        exists_of_planned_split planned
      cases made
      exact ⟨given, panes, rfl, mt lacksWeight_iff.mpr weighted, rfl,
        plannedPanes⟩

theorem getElem?_plannedList {id path : String} {index offset : Nat}
    {panes : List Layout} {nodes : List PlanNode} {node : PlanNode}
    (planned : plannedList id path index panes = .ok nodes)
    (found : nodes[offset]? = some node) :
    ∃ pane childId childPath, panes[offset]? = some pane ∧
      pane.planned childId childPath = .ok node := by
  induction panes generalizing index offset nodes with
  | nil =>
      cases planned
      cases found
  | cons pane panes induction =>
      obtain ⟨first, later, plannedFirst, plannedLater, rfl⟩ :=
        exists_of_plannedList_cons planned
      cases offset with
      | zero =>
          cases found
          exact ⟨pane, _, _, rfl, plannedFirst⟩
      | succ offset =>
          obtain ⟨other, childId, childPath, isOther, plannedOther⟩ :=
            induction plannedLater found
          exact ⟨other, childId, childPath, isOther, plannedOther⟩

theorem at?_of_planned {position : Position} {id path : String}
    {layout : Layout} {root node : PlanNode}
    (planned : layout.planned id path = .ok root)
    (found : root.at? position = some node) :
    ∃ inner innerId innerPath, layout.at? position = some inner ∧
      inner.planned innerId innerPath = .ok node := by
  induction position generalizing id path layout root with
  | nil =>
      cases found
      exact ⟨layout, id, path, rfl, planned⟩
  | cons index rest induction =>
      cases root with
      | terminal => cases found
      | split splitId orientation ratio nodes =>
          obtain ⟨given, panes, rfl, -, -, plannedPanes⟩ :=
            split_of_planned planned
          obtain ⟨child, isChild, found⟩ := Option.bind_eq_some_iff.mp found
          obtain ⟨pane, childId, childPath, isPane, plannedPane⟩ :=
            getElem?_plannedList plannedPanes isChild
          obtain ⟨inner, innerId, innerPath, isInner, plannedInner⟩ :=
            induction plannedPane found
          refine ⟨inner, innerId, innerPath, ?_, plannedInner⟩
          exact Option.bind_eq_some_iff.mpr ⟨pane, isPane, isInner⟩

end Layout

namespace PlanNode

theorem getElem?_withFocusList (focusPaneId : String) (nodes : List PlanNode)
    (index : Nat) :
    (withFocusList focusPaneId nodes)[index]? =
      nodes[index]?.map (withFocus focusPaneId) := by
  induction nodes generalizing index with
  | nil => rfl
  | cons node nodes induction =>
      cases index with
      | zero => rfl
      | succ index => exact induction index

theorem at?_withFocus (focusPaneId : String) (root : PlanNode)
    (position : Position) :
    (root.withFocus focusPaneId).at? position =
      (root.at? position).map (withFocus focusPaneId) := by
  induction position generalizing root with
  | nil => rfl
  | cons index rest induction =>
      cases root with
      | terminal => rfl
      | split id orientation ratio panes =>
          simp only [withFocus, at?, getElem?_withFocusList]
          cases panes[index]? with
          | none => rfl
          | some pane => exact induction pane

end PlanNode

/-! ### Ratios -/

namespace Ratio

theorem weights_ne_nil {ratio : Ratio} (nonempty : ratio ≠ [])
    (weighted : ¬ ratio.IsFixedOnly) : ratio.weights ≠ [] := by
  intro isEmpty
  refine weighted ⟨nonempty, fun entry member => ?_⟩
  have noWeight := List.filterMap_eq_nil_iff.mp isEmpty entry member
  cases entry with
  | weight value => cases noWeight
  | cells count positive => exact ⟨count, positive, rfl⟩

/-- The ratio of a split in a plan has the shape of the one in a document, and
its weights are the shares of those that were read there. -/
structure HasShapeOf (ratio : Ratio) (raw : List Value) (given : Ratio)
    (children : Nat) : Prop where
  length : ratio.length = children
  length_raw : ratio.length = raw.length
  /-- Fixed entries stand where the document has tokens for them. -/
  cells_iff : ∀ (index count : Nat) (positive : 0 < count),
    ratio[index]? = some (.cells count positive) ↔
      ∃ entry, raw[index]? = some entry ∧
        RatioEntry.parse entry = .ok (some (.cells count positive))
  read : given.IsReadFrom raw
  refills : given.Refills (normalizeWeights given.weights) ratio
  weighted : ratio.weights ≠ []

theorem hasShapeOf_normalize {given : Ratio} {raw : List Value}
    {children : Nat} (length : given.length = children) (nonempty : given ≠ [])
    (weighted : ¬ given.IsFixedOnly) (read : given.IsReadFrom raw) :
    given.normalize.HasShapeOf raw given children where
  length := (refills_normalize given).length.trans length
  length_raw := (refills_normalize given).length.trans read.length_eq.symm
  cells_iff := by
    intro index count positive
    rw [(refills_normalize given).cells_iff]
    exact read.getElem?_iff
  read := read
  refills := refills_normalize given
  weighted := weights_normalize_ne_nil (weights_ne_nil nonempty weighted)

end Ratio

/-! ### Plans -/

namespace Plan

/-- A split in a plan was planned from the split of the layout there. -/
theorem split_of_ofPreset {preset : Preset} {plan : Plan}
    {position : Position} {id : String} {orientation : Orientation}
    {ratio : Ratio} {nodes : List PlanNode} (ok : ofPreset preset = .ok plan)
    (found : plan.root.at? position =
      some (.split id orientation ratio nodes)) :
    ∃ layout given panes, preset.layout = some layout ∧
      layout.at? position = some (.split orientation given panes) ∧
      ¬ given.IsFixedOnly ∧ ratio = given.normalize ∧
      panes.length = nodes.length := by
  cases hasLayout : preset.layout with
  | none =>
      -- The plan is a single terminal.
      rw [ofPreset, hasLayout] at ok
      cases ok
      cases position with
      | nil => cases found
      | cons index rest => cases found
  | some layout =>
      obtain ⟨root, focusPaneId, planned, -, rfl⟩ :=
        exists_of_ofPreset hasLayout ok
      rw [PlanNode.at?_withFocus] at found
      obtain ⟨node, isNode, focused⟩ := Option.map_eq_some_iff.mp found
      obtain ⟨inner, _, _, isInner, plannedInner⟩ :=
        Layout.at?_of_planned planned isNode
      cases node with
      | terminal => cases focused
      | split _ _ _ children =>
          cases focused
          obtain ⟨given, panes, rfl, weighted, normalized, plannedPanes⟩ :=
            Layout.split_of_planned plannedInner
          refine ⟨layout, given, panes, rfl, isInner, weighted, normalized, ?_⟩
          rw [PlanNode.length_withFocusList,
            PlanNode.length_plannedList plannedPanes]

/-- Normalizing a ratio replaces its weights by shares, one for one and in order,
and changes nothing else.  So every split of a plan has an entry for each child,
a fixed number of cells exactly where the document has a token for that number,
and at least one weight. -/
theorem splits_keep_shape :
    (∀ ratio : Ratio,
      ratio.Refills (normalizeWeights ratio.weights) ratio.normalize) ∧
    ∀ source value preset plan, Preset.ofValue source value = .ok preset →
      ofPreset preset = .ok plan →
      ∀ position id orientation ratio panes,
        plan.root.at? position = some (.split id orientation ratio panes) →
        ∃ layout given compiled entries raw,
          preset.layout = some layout ∧
          layout.at? position = some (.split orientation given compiled) ∧
          position.place.follow value = some (.mapping entries) ∧
          Value.lookup entries "ratio" = some (.list raw) ∧
          ratio.HasShapeOf raw given panes.length := by
  refine ⟨Ratio.refills_normalize, ?_⟩
  intro source value preset plan compiled planned position id orientation
    ratio nodes found
  obtain ⟨layout, given, panes, hasLayout, isSplit, weighted, rfl, same⟩ :=
    split_of_ofPreset planned found
  obtain ⟨length, nonempty, entries, raw, follows, hasRatio, read⟩ :=
    Preset.ratio_of_split compiled hasLayout isSplit
  exact ⟨layout, given, panes, entries, raw, hasLayout, isSplit, follows,
    hasRatio,
    Ratio.hasShapeOf_normalize (length.trans same) nonempty weighted read⟩

/-- A split whose second pane is fixed. -/
def makeAboveTop : List (Value × Value) :=
  [(.text "type", .text "vertical"),
    (.text "ratio", .list [.float 2.5, .text "3c"]),
    (.text "panes", .list [
      .mapping [(.text "command", .text "make")],
      .mapping [(.text "command", .text "top")]])]

/-- Weights and fixed panes in turns, and a split in the last pane. -/
def fixedAmongWeights : Value :=
  .mapping [(.text "layout", .mapping [
    (.text "type", .text "horizontal"),
    (.text "ratio", .list [.text "20c", .int 1, .text "5 c", .int 3]),
    (.text "panes", .list [
      .mapping [(.text "name", .text "clock")],
      .mapping [(.text "name", .text "shell")],
      .mapping [(.text "name", .text "bar")],
      .mapping makeAboveTop])])]

theorem splits_keep_shape_fixedAmongWeights :
    ∃ preset plan id orientation ratio panes,
      Preset.ofValue "local" fixedAmongWeights = .ok preset ∧
      ofPreset preset = .ok plan ∧
      plan.root.at? [3] = some (.split id orientation ratio panes) ∧
      panes.length = 2 ∧ ratio[1]? = some (.cells 3 (by decide)) ∧
      ratio.weights ≠ [] := by
  have evaluated : ((Preset.ofValue "local" fixedAmongWeights).toOption.bind
      fun preset => (ofPreset preset).toOption.bind fun plan =>
        (plan.root.at? [3]).map fun node => node.terminals.length) =
          some 2 := by
    decide +kernel
  obtain ⟨preset, compiled, evaluated⟩ := Option.bind_eq_some_iff.mp evaluated
  obtain ⟨plan, planned, evaluated⟩ := Option.bind_eq_some_iff.mp evaluated
  obtain ⟨node, found, two⟩ := Option.map_eq_some_iff.mp evaluated
  have compiled := ok_of_toOption_eq_some compiled
  have planned := ok_of_toOption_eq_some planned
  cases node with
  | terminal => cases two
  | split id orientation ratio panes =>
      obtain ⟨_, _, _, entries, raw, _, _, follows, hasRatio, shape⟩ :=
        splits_keep_shape.2 _ _ _ _ compiled planned _ _ _ _ _ found
      have stands : (Position.place [3]).follow fixedAmongWeights =
        some (.mapping makeAboveTop) := rfl
      cases follows.symm.trans stands
      have isRatio : Value.lookup makeAboveTop "ratio" =
        some (.list [.float 2.5, .text "3c"]) := rfl
      cases hasRatio.symm.trans isRatio
      refine ⟨preset, plan, id, orientation, ratio, panes, compiled, planned,
        found, ?_, ?_, shape.weighted⟩
      · rw [← shape.length, shape.length_raw]
        rfl
      · exact (shape.cells_iff 1 3 _).mpr ⟨.text "3c", rfl, rfl⟩

end Plan

end PaneLayout
