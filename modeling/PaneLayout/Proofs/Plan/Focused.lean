import PaneLayout.Proofs.Plan.Planned

/-!
# Terminals that ask for the focus

Planning keeps the terminals of a layout in order.  It fails if more than one of
them asks for the focus.
-/

namespace PaneLayout

mutual

/-- The terminals of a node that is planned are those of its layout. -/
theorem terminals_planned : ∀ {id path : String} {layout : Layout}
    {node : PlanNode}, layout.planned id path = .ok node →
    node.terminals.map Prod.snd = layout.terminals
  | _, _, .terminal _, _, planned => by
      cases planned
      rfl
  | _, _, .split _ _ _, _, planned => by
      obtain ⟨nodes, -, plannedPanes, rfl⟩ :=
        Layout.exists_of_planned_split planned
      exact terminalsList_planned plannedPanes

theorem terminalsList_planned : ∀ {id path : String} {index : Nat}
    {panes : List Layout} {nodes : List PlanNode},
    Layout.plannedList id path index panes = .ok nodes →
    (PlanNode.terminalsList nodes).map Prod.snd = Layout.terminalsList panes
  | _, _, _, [], _, planned => by
      cases planned
      rfl
  | _, _, _, _ :: _, _, planned => by
      obtain ⟨node, nodes, plannedPane, plannedPanes, rfl⟩ :=
        Layout.exists_of_plannedList_cons planned
      rw [PlanNode.terminalsList, List.map_append,
        terminals_planned plannedPane, terminalsList_planned plannedPanes,
        Layout.terminalsList]

end

/-- How many terminals of a layout ask for the focus. -/
def Layout.focusRequests (layout : Layout) : Nat :=
  layout.terminals.countP Terminal.focus

theorem PlanNode.focusIds_length (node : PlanNode) :
    node.focusIds.length =
      (node.terminals.map Prod.snd).countP Terminal.focus := by
  rw [focusIds, List.length_map, ← List.countP_eq_length_filter,
    List.countP_map]
  rfl

/-- Where a focus is decided, at most one terminal asks for it. -/
theorem Plan.focusIds_length_le {root : PlanNode} {focusPaneId : String}
    (ok : focusOf root = .ok focusPaneId) : root.focusIds.length ≤ 1 := by
  unfold focusOf at ok
  split at ok
  · cases ok
  · cases ok
  · next ids _ =>
    rw [ids]
    exact le_refl 1
  · next ids _ =>
    rw [ids]
    exact Nat.zero_le 1

theorem Plan.focusRequests_le {preset : Preset} {plan : Plan}
    {layout : Layout} (hasLayout : preset.layout = some layout)
    (ok : ofPreset preset = .ok plan) : layout.focusRequests ≤ 1 := by
  obtain ⟨root, focusPaneId, planned, focused, -⟩ :=
    exists_of_ofPreset hasLayout ok
  rw [Layout.focusRequests, ← terminals_planned planned,
    ← PlanNode.focusIds_length]
  exact focusIds_length_le focused

end PaneLayout
