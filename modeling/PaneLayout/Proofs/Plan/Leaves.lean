import PaneLayout.Proofs.PaneMap
import PaneLayout.Proofs.Plan.Prepared

/-!
# Ids, leaves and the focus of a plan

The id of every node of a plan spells its position, also where splits have no
children.  The terminals of a plan are the leaves of the layout in depth-first
order, and one of them has the focus: the leaf that asks for it, or the first
one.
-/

namespace PaneLayout

/-! ### Ids above an id -/

namespace Position

/-- An id lists the indices that lead to its node. -/
theorem paneId_eq_intercalate (position : Position) :
    position.paneId = ".".intercalate ("root" :: position.map toString) := by
  induction position using List.reverseRecOn with
  | nil => rfl
  | append_singleton position index induction =>
      rw [paneId_concat, childPaneId_eq, induction, List.map_append,
        List.map_singleton, ← List.cons_append,
        String.intercalate_append_of_ne_nil (List.cons_ne_nil _ _)
          (List.cons_ne_nil _ _), String.intercalate_singleton]

theorem mem_ancestors_paneId {id : String} {position : Position} :
    id ∈ PaneMap.ancestors position.paneId ↔
      ∃ above index rest, position = above ++ index :: rest ∧
        id = paneId above := by
  induction position using List.reverseRecOn with
  | nil => simp [ancestors_root]
  | append_singleton position last induction =>
      rw [paneId_concat, ancestors_childPaneId, List.mem_cons, induction]
      constructor
      · rintro (rfl | ⟨above, index, rest, rfl, rfl⟩)
        · exact ⟨position, last, [], rfl, rfl⟩
        · exact ⟨above, index, rest ++ [last], by simp, rfl⟩
      · rintro ⟨above, index, rest, same, rfl⟩
        rcases List.eq_nil_or_concat' rest with rfl | ⟨rest, final, rfl⟩
        · left
          rw [(List.append_inj' same rfl).1]
        · right
          refine ⟨above, index, rest, ?_, rfl⟩
          rw [← List.cons_append, ← List.append_assoc] at same
          exact (List.append_inj' same rfl).1

/-- One id is above another if its position leads to the other position. -/
theorem isAncestor_iff {position other : Position} :
    PaneMap.isAncestor position.paneId other.paneId = true ↔
      ∃ index rest, other = position ++ index :: rest := by
  rw [← PaneMap.mem_ancestors, mem_ancestors_paneId]
  constructor
  · rintro ⟨above, index, rest, leads, same⟩
    rw [paneId_injective same]
    exact ⟨index, rest, leads⟩
  · rintro ⟨index, rest, leads⟩
    exact ⟨position, index, rest, leads, rfl⟩

/-- One id is at or above another if its position is part of the way to the
other. -/
theorem atOrAbove_paneId_iff {position other : Position} :
    PaneMap.AtOrAbove position.paneId other.paneId ↔ position <+: other := by
  rw [PaneMap.AtOrAbove, isAncestor_iff, paneId_injective.eq_iff]
  constructor
  · rintro (rfl | ⟨index, rest, rfl⟩)
    · exact List.prefix_refl position
    · exact List.prefix_append position _
  · rintro ⟨rest, rfl⟩
    cases rest with
    | nil => exact .inl (List.append_nil position).symm
    | cons index rest => exact .inr ⟨index, rest, rfl⟩

end Position

/-! ### Nodes at positions -/

namespace PlanNode

/-- The node to which indices lead from a node. -/
def at? : PlanNode → Position → Option PlanNode
  | node, [] => some node
  | .terminal _ _, _ :: _ => none
  | .split _ _ _ panes, index :: rest =>
      panes[index]?.bind fun pane => pane.at? rest

/-- The id of every node spells its position. -/
structure SpellsPositions (root : PlanNode) : Prop where
  id_eq : ∀ position node, root.at? position = some node →
    node.id = ".".intercalate ("root" :: position.map toString)
  position_eq : ∀ position other node otherNode,
    root.at? position = some node → root.at? other = some otherNode →
    node.id = otherNode.id → position = other
  /-- An id with a dot starts the ids of the nodes below its own. -/
  isPrefix_iff : ∀ position other node otherNode,
    root.at? position = some node → root.at? other = some otherNode →
    ((node.id ++ ".").toList <+: otherNode.id.toList ↔
      ∃ index rest, other = position ++ index :: rest)

end PlanNode

theorem PlansAll.getElem? {position : Position} {index offset : Nat}
    {panes : List Layout} {nodes : List PlanNode} {node : PlanNode}
    (plans : PlansAll position index panes nodes)
    (found : nodes[offset]? = some node) :
    ∃ pane, Plans (position ++ [index + offset]) pane node := by
  induction nodes generalizing index offset panes with
  | nil => cases found
  | cons first nodes induction =>
      cases plans with
      | cons here later =>
          cases offset with
          | zero =>
              cases found
              exact ⟨_, here⟩
          | succ offset =>
              obtain ⟨pane, plans⟩ := induction later found
              rw [Nat.add_assoc, Nat.add_comm 1] at plans
              exact ⟨pane, plans⟩

theorem Plans.at? {position rest : Position} {layout : Layout}
    {node inner : PlanNode} (plans : Plans position layout node)
    (found : node.at? rest = some inner) :
    ∃ below, Plans (position ++ rest) below inner := by
  induction rest generalizing position layout node with
  | nil =>
      cases found
      rw [List.append_nil]
      exact ⟨layout, plans⟩
  | cons index rest induction =>
      cases plans with
      | terminal => cases found
      | split children =>
          obtain ⟨child, isChild, found⟩ := Option.bind_eq_some_iff.mp found
          obtain ⟨pane, plans⟩ := children.getElem? isChild
          obtain ⟨below, plans⟩ := induction plans found
          rw [Nat.zero_add, List.append_assoc] at plans
          exact ⟨below, plans⟩

theorem Plans.spellsPositions {layout : Layout} {root : PlanNode}
    (plans : Plans [] layout root) : root.SpellsPositions := by
  have spelled : ∀ position node, root.at? position = some node →
      node.id = Position.paneId position := by
    intro position node found
    obtain ⟨below, isPlanned⟩ := plans.at? found
    exact isPlanned.id_eq
  constructor
  · intro position node found
    rw [spelled position node found, Position.paneId_eq_intercalate]
  · intro position other node otherNode found otherFound same
    rw [spelled _ _ found, spelled _ _ otherFound] at same
    exact Position.paneId_injective same
  · intro position other node otherNode found otherFound
    rw [spelled _ _ found, spelled _ _ otherFound, ← Position.isAncestor_iff,
      PaneMap.isAncestor, List.isPrefixOf_iff_prefix, String.toList_append]
    exact Iff.rfl

/-! ### Leaves -/

namespace Layout

mutual

/-- The terminals with their positions in depth-first order. -/
def leaves (position : Position) : Layout → List (Position × Terminal)
  | .terminal leaf => [(position, leaf)]
  | .split _ _ panes => leavesList position 0 panes

def leavesList (position : Position) (index : Nat) :
    List Layout → List (Position × Terminal)
  | [] => []
  | pane :: panes =>
      pane.leaves (position ++ [index]) ++
        leavesList position (index + 1) panes

end

mutual

theorem map_snd_leaves : ∀ (position : Position) (layout : Layout),
    (layout.leaves position).map Prod.snd = layout.terminals
  | _, .terminal _ => rfl
  | position, .split _ _ panes => map_snd_leavesList position 0 panes

theorem map_snd_leavesList : ∀ (position : Position) (index : Nat)
    (panes : List Layout),
    (leavesList position index panes).map Prod.snd = terminalsList panes
  | _, _, [] => rfl
  | position, index, pane :: panes => by
      rw [leavesList, List.map_append, map_snd_leaves,
        map_snd_leavesList position (index + 1) panes, terminalsList]

end

mutual

theorem leaves_position : ∀ (position : Position) (layout : Layout),
    ∀ leaf ∈ layout.leaves position, ∃ rest, leaf.1 = position ++ rest
  | position, .terminal _ => by
      intro leaf member
      cases List.mem_singleton.mp member
      exact ⟨[], (List.append_nil position).symm⟩
  | position, .split _ _ panes => by
      intro leaf member
      obtain ⟨offset, rest, leads⟩ :=
        leavesList_position position 0 panes leaf member
      exact ⟨_, leads⟩

theorem leavesList_position : ∀ (position : Position) (index : Nat)
    (panes : List Layout), ∀ leaf ∈ leavesList position index panes,
      ∃ offset rest, leaf.1 = position ++ (index + offset) :: rest
  | _, _, [] => List.forall_mem_nil _
  | position, index, pane :: panes => by
      intro leaf member
      rcases List.mem_append.mp member with first | later
      · obtain ⟨rest, leads⟩ := leaves_position _ pane leaf first
        exact ⟨0, rest, by simpa using leads⟩
      · obtain ⟨offset, rest, leads⟩ :=
          leavesList_position position (index + 1) panes leaf later
        exact ⟨offset + 1, rest, by rw [leads, Nat.add_assoc, Nat.add_comm 1]⟩

end

mutual

/-- No leaf is reached through another one. -/
theorem leaves_apart : ∀ (position : Position) (layout : Layout),
    (layout.leaves position).Pairwise fun leaf other =>
      ¬ leaf.1 <+: other.1 ∧ ¬ other.1 <+: leaf.1
  | _, .terminal _ => List.pairwise_singleton _ _
  | position, .split _ _ panes => leavesList_apart position 0 panes

theorem leavesList_apart : ∀ (position : Position) (index : Nat)
    (panes : List Layout),
    (leavesList position index panes).Pairwise fun leaf other =>
      ¬ leaf.1 <+: other.1 ∧ ¬ other.1 <+: leaf.1
  | _, _, [] => .nil
  | position, index, pane :: panes => by
      refine List.pairwise_append.mpr ⟨leaves_apart _ pane,
        leavesList_apart position (index + 1) panes, ?_⟩
      -- The first child and a later one differ in the index after `position`.
      intro leaf member other otherMember
      obtain ⟨rest, leads⟩ := leaves_position _ pane leaf member
      obtain ⟨offset, otherRest, otherLeads⟩ :=
        leavesList_position position (index + 1) panes other otherMember
      rw [leads, otherLeads, List.append_assoc]
      simp only [List.prefix_append_right_inj, List.singleton_append,
        List.cons_prefix_cons]
      omega

end

theorem leaves_nodup (position : Position) (layout : Layout) :
    ((layout.leaves position).map Prod.fst).Nodup := by
  refine List.pairwise_map.mpr ((leaves_apart position layout).imp ?_)
  intro leaf other apart same
  exact apart.1 (same ▸ List.prefix_refl _)

end Layout

/-! ### Terminals of a plan -/

mutual

theorem terminals_planned_leaves : ∀ {position : Position} {path : String}
    {layout : Layout} {node : PlanNode},
    layout.planned position.paneId path = .ok node →
    node.terminals =
      (layout.leaves position).map fun leaf => (leaf.1.paneId, leaf.2)
  | _, _, .terminal _, _, planned => by
      cases planned
      rfl
  | _, _, .split _ _ _, _, planned => by
      obtain ⟨nodes, -, plannedPanes, rfl⟩ :=
        Layout.exists_of_planned_split planned
      exact terminalsList_planned_leaves plannedPanes

theorem terminalsList_planned_leaves : ∀ {position : Position}
    {path : String} {index : Nat} {panes : List Layout}
    {nodes : List PlanNode},
    Layout.plannedList position.paneId path index panes = .ok nodes →
    PlanNode.terminalsList nodes =
      (Layout.leavesList position index panes).map
        fun leaf => (leaf.1.paneId, leaf.2)
  | _, _, _, [], _, planned => by
      cases planned
      rfl
  | position, _, index, _ :: _, _, planned => by
      obtain ⟨node, nodes, plannedPane, plannedPanes, rfl⟩ :=
        Layout.exists_of_plannedList_cons planned
      rw [← Position.paneId_concat] at plannedPane
      rw [PlanNode.terminalsList, terminals_planned_leaves plannedPane,
        terminalsList_planned_leaves plannedPanes, Layout.leavesList,
        List.map_append]

end

namespace PlanNode

/-- A terminal with its id, with the focus if it has the given id. -/
def focused (focusPaneId : String) (entry : String × Terminal) :
    String × Terminal :=
  (entry.1, { entry.2 with focus := entry.1 == focusPaneId })

mutual

theorem terminals_withFocus (focusPaneId : String) : ∀ node : PlanNode,
    (node.withFocus focusPaneId).terminals =
      node.terminals.map (focused focusPaneId)
  | .terminal _ _ => rfl
  | .split _ _ _ panes => terminalsList_withFocus focusPaneId panes

theorem terminalsList_withFocus (focusPaneId : String) :
    ∀ panes : List PlanNode,
      terminalsList (withFocusList focusPaneId panes) =
        (terminalsList panes).map (focused focusPaneId)
  | [] => rfl
  | pane :: panes => by
      rw [withFocusList, terminalsList, terminals_withFocus focusPaneId pane,
        terminalsList_withFocus focusPaneId panes, terminalsList,
        List.map_append]

end

/-- Where ids are distinct, one terminal has the focus. -/
theorem filter_focused {focusPaneId : String} {leaf : Terminal}
    {terminals : List (String × Terminal)}
    (distinct : (terminals.map Prod.fst).Nodup)
    (member : (focusPaneId, leaf) ∈ terminals) :
    (terminals.map (focused focusPaneId)).filter (fun entry => entry.2.focus) =
      [(focusPaneId, { leaf with focus := true })] := by
  obtain ⟨before, after, rfl⟩ := List.append_of_mem member
  rw [List.map_append, List.map_cons, List.nodup_append] at distinct
  obtain ⟨-, distinct, apart⟩ := distinct
  have others : ∀ entry ∈ before ++ after, entry.1 ≠ focusPaneId := by
    intro entry isOther
    rcases List.mem_append.mp isOther with first | later
    · exact apart _ (List.mem_map_of_mem first) _ List.mem_cons_self
    · intro same
      refine (List.nodup_cons.mp distinct).1 (List.mem_map.mpr ?_)
      exact ⟨entry, later, same⟩
  rw [List.forall_mem_append] at others
  have noneOf : ∀ part : List (String × Terminal),
      (∀ entry ∈ part, entry.1 ≠ focusPaneId) →
      (part.map (focused focusPaneId)).filter (fun entry => entry.2.focus) =
        [] := by
    intro part differ
    rw [List.filter_eq_nil_iff, List.forall_mem_map]
    intro entry isEntry
    simpa [focused] using differ entry isEntry
  rw [List.map_append, List.filter_append, noneOf before others.1,
    List.map_cons, List.filter_cons_of_pos (by simp [focused]),
    noneOf after others.2]
  simp [focused]

end PlanNode

end PaneLayout
