import PaneLayout.Emission
import PaneLayout.Proofs.Fault
import PaneLayout.Proofs.Plan.Unfolding

/-!
# Plans and emissions of a layout

The nodes of a plan have the ids of their positions.  The split steps of an
emission carry out the divisions of the layout in order, and they are sized in a
way that the server can be told.
-/

namespace PaneLayout

/-! ### What was planned -/

namespace Layout

/-- A split that was planned has a weight, and its children were planned. -/
theorem exists_of_planned_split {id path : String} {orientation : Orientation}
    {ratio : Ratio} {panes : List Layout} {node : PlanNode}
    (ok : (Layout.split orientation ratio panes).planned id path = .ok node) :
    ∃ nodes, ¬ lacksWeight ratio = true ∧
      plannedList id path 0 panes = .ok nodes ∧
      node = .split id orientation ratio.normalize nodes := by
  unfold planned at ok
  split at ok
  · cases ok
  · next weighted =>
    obtain ⟨nodes, plannedPanes, made⟩ := exists_of_bind_eq_ok ok
    cases made
    exact ⟨nodes, weighted, plannedPanes, rfl⟩

/-- Children are planned one after the other. -/
theorem exists_of_plannedList_cons {id path : String} {index : Nat}
    {pane : Layout} {panes : List Layout} {nodes : List PlanNode}
    (ok : plannedList id path index (pane :: panes) = .ok nodes) :
    ∃ node later, pane.planned (childPaneId id index)
        (path ++ ".panes[" ++ toString index ++ "]") = .ok node ∧
      plannedList id path (index + 1) panes = .ok later ∧
      nodes = node :: later := by
  obtain ⟨node, plannedPane, made⟩ := exists_of_bind_eq_ok ok
  obtain ⟨later, plannedPanes, made⟩ := exists_of_bind_eq_ok made
  cases made
  exact ⟨node, later, plannedPane, plannedPanes, rfl⟩

end Layout

/-- The plan of a preset is its planned layout, with the focus on a terminal. -/
theorem Plan.exists_of_ofPreset {preset : Preset} {layout : Layout}
    {plan : Plan} (hasLayout : preset.layout = some layout)
    (ok : ofPreset preset = .ok plan) :
    ∃ root focusPaneId, layout.planned rootPaneId "preset.layout" = .ok root ∧
      focusOf root = .ok focusPaneId ∧
      plan = ⟨root.withFocus focusPaneId, focusPaneId⟩ := by
  unfold ofPreset at ok
  rw [hasLayout] at ok
  obtain ⟨root, planned, ok⟩ := exists_of_bind_eq_ok ok
  obtain ⟨focusPaneId, focused, made⟩ := exists_of_bind_eq_ok ok
  cases made
  exact ⟨root, focusPaneId, planned, focused, rfl⟩

/-! ### Nodes at their positions -/

mutual

/-- A node of a plan is the node of a layout, with the id of its position. -/
inductive Plans : Position → Layout → PlanNode → Prop where
  | terminal {position : Position} {leaf planned : Terminal} :
      Plans position (.terminal leaf) (.terminal position.paneId planned)
  | split {position : Position} {orientation : Orientation}
      {ratio normalized : Ratio} {panes : List Layout}
      {nodes : List PlanNode} :
      PlansAll position 0 panes nodes →
      Plans position (.split orientation ratio panes)
        (.split position.paneId orientation normalized nodes)

inductive PlansAll : Position → Nat → List Layout → List PlanNode → Prop where
  | nil {position : Position} {index : Nat} : PlansAll position index [] []
  | cons {position : Position} {index : Nat} {pane : Layout}
      {panes : List Layout} {node : PlanNode} {nodes : List PlanNode} :
      Plans (position ++ [index]) pane node →
      PlansAll position (index + 1) panes nodes →
      PlansAll position index (pane :: panes) (node :: nodes)

end

theorem Plans.id_eq {position : Position} {layout : Layout} {node : PlanNode}
    (plans : Plans position layout node) : node.id = position.paneId := by
  cases plans <;> rfl

mutual

theorem plans_planned : ∀ (position : Position) (path : String)
    (layout : Layout) (node : PlanNode),
    layout.planned position.paneId path = .ok node →
      Plans position layout node
  | position, path, .terminal leaf, node, planned => by
      cases planned
      exact .terminal
  | position, path, .split orientation ratio panes, node, planned => by
      obtain ⟨nodes, -, plannedPanes, rfl⟩ :=
        Layout.exists_of_planned_split planned
      exact .split (plansAll_planned position path 0 panes nodes plannedPanes)

theorem plansAll_planned : ∀ (position : Position) (path : String)
    (index : Nat) (panes : List Layout) (nodes : List PlanNode),
    Layout.plannedList position.paneId path index panes = .ok nodes →
      PlansAll position index panes nodes
  | _, _, _, [], _, planned => by
      cases planned
      exact .nil
  | position, path, index, pane :: panes, nodes, planned => by
      obtain ⟨node, later, plannedPane, plannedPanes, rfl⟩ :=
        Layout.exists_of_plannedList_cons planned
      rw [← Position.paneId_concat] at plannedPane
      exact .cons (plans_planned _ _ pane node plannedPane)
        (plansAll_planned position path (index + 1) panes later plannedPanes)

end

mutual

theorem Plans.withFocus (focusPaneId : String) :
    ∀ {position : Position} {layout : Layout} {node : PlanNode},
      Plans position layout node →
      Plans position layout (node.withFocus focusPaneId)
  | _, _, _, .terminal => .terminal
  | _, _, _, .split plans => .split (PlansAll.withFocus focusPaneId plans)

theorem PlansAll.withFocus (focusPaneId : String) :
    ∀ {position : Position} {index : Nat} {panes : List Layout}
      {nodes : List PlanNode}, PlansAll position index panes nodes →
      PlansAll position index panes
        (PlanNode.withFocusList focusPaneId nodes)
  | _, _, _, _, .nil => .nil
  | _, _, _, _, .cons first rest =>
      .cons (first.withFocus focusPaneId) (rest.withFocus focusPaneId)

end

/-! ### Terminals -/

def leafIds (tree : PaneTree (Position × Terminal)) : List String :=
  tree.leaves.map fun leaf => leaf.1.paneId

mutual

theorem Plans.terminalIds_eq :
    ∀ {position : Position} {layout : Layout} {node : PlanNode},
      Plans position layout node → layout.HasChildren →
      node.terminals.map Prod.fst = leafIds (layout.unfold position)
  | _, _, _, .terminal, _ => rfl
  | _, _, _, .split plans, ⟨nonempty, children⟩ =>
      PlansAll.terminalIds_eq plans _ nonempty children

theorem PlansAll.terminalIds_eq :
    ∀ {position : Position} {index : Nat} {panes : List Layout}
      {nodes : List PlanNode}, PlansAll position index panes nodes →
      ∀ orientation, panes ≠ [] → Layout.HasChildrenList panes →
      (PlanNode.terminalsList nodes).map Prod.fst =
        leafIds (Layout.unfoldList orientation position index panes)
  | _, _, _, _, .nil, _, nonempty, _ => absurd rfl nonempty
  | _, _, _, _, .cons first .nil, _, _, ⟨has, _⟩ => by
      rw [PlanNode.terminalsList, PlanNode.terminalsList, List.append_nil]
      exact first.terminalIds_eq has
  | _, _, _, _, .cons first (.cons next rest), orientation, _,
      ⟨has, children⟩ => by
      rw [PlanNode.terminalsList, List.map_append, first.terminalIds_eq has,
        (PlansAll.cons next rest).terminalIds_eq orientation
          (List.cons_ne_nil _ _) children]
      simp [leafIds, Layout.unfoldList, PaneTree.leaves]

end

mutual

theorem Plans.initialPaneId_eq :
    ∀ {position : Position} {layout : Layout} {node : PlanNode},
      Plans position layout node → layout.HasChildren →
      node.initialPaneId = .ok (layout.leftmost position).paneId
  | _, _, _, .terminal, _ => rfl
  | _, _, _, .split plans, ⟨nonempty, children⟩ =>
      PlansAll.initialPaneId_eq plans nonempty children

theorem PlansAll.initialPaneId_eq :
    ∀ {position : Position} {panes : List Layout} {nodes : List PlanNode},
      PlansAll position 0 panes nodes → panes ≠ [] →
      Layout.HasChildrenList panes →
      PlanNode.initialPaneIdList nodes =
        .ok (Layout.leftmostList position panes).paneId
  | _, _, _, .nil, nonempty, _ => absurd rfl nonempty
  | _, _, _, .cons first _, _, ⟨has, _⟩ => first.initialPaneId_eq has

end

end PaneLayout
