import PaneLayout.Proofs.Compile.Recorded
import PaneLayout.Proofs.Plan.Prepared

/-!
# Nodes at their places

The node of a layout at a position was compiled from the node of the document at
the place that belongs to the position.  The ratio of a split was read from the
entries that its node has there, one for one.
-/

namespace PaneLayout

/-- The place in a document of the node at a position. -/
def Position.place (position : Position) : Compile.Place :=
  .field "layout" :: position.map (.item "panes")

/-- The node to which indices lead from a node. -/
def Layout.at? : Layout → Position → Option Layout
  | layout, [] => some layout
  | .terminal _, _ :: _ => none
  | .split _ _ panes, index :: rest =>
      panes[index]?.bind fun pane => pane.at? rest

/-- A ratio has the entries that were read from those of a document. -/
abbrev Ratio.IsReadFrom (ratio : Ratio) (raw : List Value) : Prop :=
  List.Forall₂ (fun value entry => RatioEntry.parse value = .ok (some entry))
    raw ratio

theorem Ratio.IsReadFrom.getElem?_iff {ratio : Ratio} {raw : List Value}
    (read : ratio.IsReadFrom raw) {index : Nat} {entry : RatioEntry} :
    ratio[index]? = some entry ↔
      ∃ value, raw[index]? = some value ∧
        RatioEntry.parse value = .ok (some entry) := by
  induction read generalizing index with
  | nil => simp
  | cons parsed _ induction =>
      cases index with
      | zero => simp [parsed]
      | succ index => simpa using induction

namespace Compile

open Value

theorem Place.follow_cons (document : Value) (move : Move) (place : Place) :
    follow document (move :: place) =
      (move.follow document).bind fun value => follow value place := by
  unfold follow
  rw [List.foldl_cons, Option.bind_some]
  cases move.follow document with
  | some value => rfl
  | none =>
      induction place with
      | nil => rfl
      | cons next place induction => exact induction

theorem CompilesAll.getElem? {path : String} {index offset : Nat}
    {items : List Value} {panes : List Layout} {pane : Layout}
    (compiles : CompilesAll path index items panes)
    (found : panes[offset]? = some pane) :
    ∃ item childPath, items[offset]? = some item ∧
      Compiles childPath item pane := by
  induction panes generalizing index offset items with
  | nil => cases found
  | cons first panes induction =>
      cases compiles with
      | cons here later =>
          cases offset with
          | zero =>
              cases found
              exact ⟨_, _, rfl, here⟩
          | succ offset =>
              obtain ⟨item, childPath, isItem, compiled⟩ :=
                induction later found
              exact ⟨item, childPath, isItem, compiled⟩

theorem Compiles.at? {position : Position} {path : String} {value : Value}
    {layout inner : Layout} (compiles : Compiles path value layout)
    (found : layout.at? position = some inner) :
    ∃ innerPath node, Place.follow value (position.map (.item "panes")) =
      some node ∧ Compiles innerPath node inner := by
  induction position generalizing path value layout with
  | nil =>
      cases found
      exact ⟨path, value, rfl, compiles⟩
  | cons index rest induction =>
      cases compiles with
      | terminal => cases found
      | split _ _ hasPanes _ children =>
          obtain ⟨pane, isPane, found⟩ := Option.bind_eq_some_iff.mp found
          obtain ⟨item, childPath, isItem, compiled⟩ :=
            children.getElem? isPane
          obtain ⟨innerPath, node, follows, compiled⟩ :=
            induction compiled found
          refine ⟨innerPath, node, ?_, compiled⟩
          rw [List.map_cons, Place.follow_cons]
          simp only [Move.follow, hasPanes, isItem, Option.bind_some, follows]

/-- A split has an entry for each child, and at least one. -/
theorem Compiles.ratio_of_split {path : String} {value : Value}
    {orientation : Orientation} {ratio : Ratio} {panes : List Layout}
    (compiles : Compiles path value (.split orientation ratio panes)) :
    ratio.length = panes.length ∧ ratio ≠ [] ∧
      ∃ entries raw, value = .mapping entries ∧
        lookup entries "ratio" = some (.list raw) ∧ ratio.IsReadFrom raw := by
  cases compiles with
  | @split _ _ entries header items _ _ headerOk found nonempty children =>
      obtain ⟨present, raw, hasPanes, -, hasRatio, same, ratioOk⟩ :=
        splitHeader_ok headerOk
      cases found.symm.trans hasPanes
      have read := ratioEntries_parse ratioOk
      have length : header.ratio.length = items.length :=
        read.length_eq.symm.trans same
      refine ⟨length.trans children.length_eq, ?_,
        entries, raw, rfl, hasRatio, read⟩
      rw [← List.length_pos_iff, length]
      exact List.length_pos_iff.mpr nonempty

end Compile

/-- The ratio of a split was read at the place of the split. -/
theorem Preset.ratio_of_split {source : String} {value : Value}
    {preset : Preset} {layout : Layout} {position : Position}
    {orientation : Orientation} {ratio : Ratio} {panes : List Layout}
    (ok : ofValue source value = .ok preset)
    (hasLayout : preset.layout = some layout)
    (found : layout.at? position = some (.split orientation ratio panes)) :
    ratio.length = panes.length ∧ ratio ≠ [] ∧
      ∃ entries raw, position.place.follow value = some (.mapping entries) ∧
        Value.lookup entries "ratio" = some (.list raw) ∧
        ratio.IsReadFrom raw := by
  obtain ⟨document, rfl, layoutOk⟩ := layout_ofValue ok
  rw [hasLayout] at layoutOk
  obtain ⟨root, isRoot, compiles⟩ := Compile.compiles_of_layout layoutOk
  obtain ⟨path, node, follows, compiled⟩ := compiles.at? found
  obtain ⟨length, nonempty, entries, raw, rfl, hasRatio, read⟩ :=
    compiled.ratio_of_split
  refine ⟨length, nonempty, entries, raw, ?_, hasRatio, read⟩
  rw [Position.place, Compile.Place.follow_cons]
  simp only [Compile.Move.follow, isRoot, Option.bind_some, follows]

end PaneLayout
