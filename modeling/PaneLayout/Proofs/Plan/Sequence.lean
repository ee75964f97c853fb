import PaneLayout.Proofs.Plan.Leaves

/-!
# The sequence of the divisions

The divisions of a layout are those of its splits, one for each child but the
first.  A split comes before the splits below it, and its own divisions follow
the order of its children.  There is one division less than there are leaves.
-/

namespace PaneLayout

namespace Division

/-- The other division belongs to a later child of the same split, or to a split
below. -/
def Leads (division other : Division) : Prop :=
  division.parent = other.parent ∧ division.index < other.index ∨
    ∃ index rest, other.parent = division.parent ++ index :: rest

theorem Leads.irrefl (division : Division) : ¬ division.Leads division := by
  rintro (⟨_, less⟩ | ⟨index, rest, longer⟩)
  · exact less.false
  · exact List.cons_ne_nil _ _ (List.self_eq_append_right.mp longer)

end Division

/-! ### Which divisions there are -/

/-- Indices lead from a node to the split of a division, and the division is
aimed at one of its children but the last. -/
def Division.IsOf (division : Division) (node : PlanNode) (rest : Position) :
    Prop :=
  ∃ id ratio panes,
    node.at? rest = some (.split id division.orientation ratio panes) ∧
      division.index + 1 < panes.length

theorem PlansAll.length_eq {position : Position} {index : Nat}
    {panes : List Layout} {nodes : List PlanNode}
    (plans : PlansAll position index panes nodes) :
    nodes.length = panes.length := by
  induction nodes generalizing index panes with
  | nil =>
      cases plans
      rfl
  | cons node nodes induction =>
      cases plans with
      | cons _ later => rw [List.length_cons, List.length_cons, induction later]

mutual

/-- The divisions of a layout are those of the splits of its plan. -/
theorem Plans.mem_divisions_iff : ∀ {position : Position} {layout : Layout}
    {node : PlanNode}, Plans position layout node → ∀ division : Division,
    division ∈ layout.divisions position ↔
      ∃ rest, division.parent = position ++ rest ∧ division.IsOf node rest
  | _, _, _, .terminal, division => by
      refine ⟨nofun, ?_⟩
      rintro ⟨rest, _, _, _, _, found, _⟩
      cases rest <;> cases found
  | position, _, _, .split plans, division => by
      rw [Layout.divisions, List.mem_append, Layout.mem_ownDivisions_iff,
        plans.mem_divisionsList_iff, ← plans.length_eq]
      constructor
      · rintro (⟨offset, rfl, inside⟩ |
          ⟨offset, rest, node, isChild, parent, isOf⟩)
        · rw [Nat.zero_add]
          exact ⟨[], (List.append_nil position).symm, _, _, _, rfl, inside⟩
        · obtain ⟨id, ratio, panes, found, inside⟩ := isOf
          rw [Nat.zero_add] at parent
          exact ⟨offset :: rest, parent, id, ratio, panes,
            Option.bind_eq_some_iff.mpr ⟨node, isChild, found⟩, inside⟩
      · rintro ⟨rest, parent, id, ratio, panes, found, inside⟩
        cases rest with
        | nil =>
            cases found
            rw [List.append_nil] at parent
            refine .inl ⟨division.index, ?_, inside⟩
            rw [Nat.zero_add, ← parent]
        | cons offset rest =>
            obtain ⟨node, isChild, found⟩ := Option.bind_eq_some_iff.mp found
            rw [← Nat.zero_add offset] at parent
            exact .inr ⟨offset, rest, node, isChild, parent, id, ratio, panes,
              found, inside⟩

theorem PlansAll.mem_divisionsList_iff : ∀ {position : Position} {index : Nat}
    {panes : List Layout} {nodes : List PlanNode},
    PlansAll position index panes nodes → ∀ division : Division,
    division ∈ Layout.divisionsList position index panes ↔
      ∃ offset rest node, nodes[offset]? = some node ∧
        division.parent = position ++ (index + offset) :: rest ∧
        division.IsOf node rest
  | _, _, _, _, .nil, division => by
      refine ⟨nofun, ?_⟩
      rintro ⟨_, _, _, isChild, _⟩
      cases isChild
  | position, index, _, _, .cons here later, division => by
      rw [Layout.divisionsList, List.mem_append, here.mem_divisions_iff,
        later.mem_divisionsList_iff]
      simp only [List.append_assoc, List.singleton_append]
      constructor
      · rintro (⟨rest, parent, isOf⟩ |
          ⟨offset, rest, node, isChild, parent, isOf⟩)
        · exact ⟨0, rest, _, rfl, parent, isOf⟩
        · rw [Nat.add_assoc, Nat.add_comm 1] at parent
          exact ⟨offset + 1, rest, node, isChild, parent, isOf⟩
      · rintro ⟨offset, rest, node, isChild, parent, isOf⟩
        cases offset with
        | zero =>
            cases isChild
            exact .inl ⟨rest, parent, isOf⟩
        | succ offset =>
            rw [Nat.add_comm offset, ← Nat.add_assoc] at parent
            exact .inr ⟨offset, rest, node, isChild, parent, isOf⟩

end

namespace Layout

/-! ### In which order they come -/

/-- The two divisions stand in this order in a sequence. -/
def Ordered (division later : Division) : Prop :=
  (division.parent = later.parent → division.index < later.index) ∧
    ∀ index rest, division.parent ≠ later.parent ++ index :: rest

theorem ownDivisions_ordered (orientation : Orientation) (position : Position)
    (index : Nat) (panes : List Layout) :
    (ownDivisions orientation position index panes).Pairwise Ordered := by
  induction panes generalizing index with
  | nil => exact .nil
  | cons pane panes induction =>
      cases panes with
      | nil => exact .nil
      | cons next rest =>
          refine .cons (fun later member => ?_) (induction (index + 1))
          obtain ⟨offset, rfl, _⟩ := mem_ownDivisions_iff.mp member
          refine ⟨fun _ => ?_, fun _ _ longer => ?_⟩
          · change index < index + 1 + offset
            omega
          · exact List.cons_ne_nil _ _ (List.self_eq_append_right.mp longer)

/-- A division of a split stands before one of a split below. -/
theorem ordered_of_below {division later : Division} {index : Nat}
    {rest : Position}
    (below : later.parent = division.parent ++ index :: rest) :
    Ordered division later := by
  have longer : division.parent.length < later.parent.length := by
    rw [below, List.length_append, List.length_cons]
    omega
  refine ⟨fun same => ?_, fun _ _ same => ?_⟩
  · rw [same] at longer
    exact absurd longer (lt_irrefl _)
  · rw [same, List.length_append] at longer
    omega

/-- Divisions of the splits below two children stand in the order of the
children. -/
theorem ordered_of_children {position rest otherRest : Position}
    {index other : Nat} {division later : Division} (different : index ≠ other)
    (parent : division.parent = position ++ index :: rest)
    (otherParent : later.parent = position ++ other :: otherRest) :
    Ordered division later := by
  refine ⟨fun same => ?_, fun _ _ same => ?_⟩
  · rw [parent, otherParent, List.append_cancel_left_eq] at same
    exact absurd (List.cons.inj same).1 different
  · rw [parent, otherParent, List.append_assoc,
      List.append_cancel_left_eq] at same
    exact different (List.cons.inj same).1

mutual

theorem divisions_ordered : ∀ (position : Position) (layout : Layout),
    (layout.divisions position).Pairwise Ordered
  | _, .terminal _ => .nil
  | position, .split orientation _ panes => by
      rw [divisions, List.pairwise_append]
      refine ⟨ownDivisions_ordered orientation position 0 panes,
        divisionsList_ordered position 0 panes,
        fun division own later below => ?_⟩
      obtain ⟨_, rest, parent⟩ :=
        divisionsList_parent position 0 panes later below
      rw [← (ownDivisions_parent division own).1] at parent
      exact ordered_of_below parent

theorem divisionsList_ordered : ∀ (position : Position) (index : Nat)
    (panes : List Layout),
    (divisionsList position index panes).Pairwise Ordered
  | _, _, [] => .nil
  | position, index, pane :: panes => by
      rw [divisionsList, List.pairwise_append]
      refine ⟨divisions_ordered (position ++ [index]) pane,
        divisionsList_ordered position (index + 1) panes,
        fun division first later rest => ?_⟩
      obtain ⟨_, parent⟩ := divisions_parent _ pane division first
      obtain ⟨offset, _, otherParent⟩ :=
        divisionsList_parent position (index + 1) panes later rest
      rw [List.append_assoc, List.singleton_append] at parent
      exact ordered_of_children (by omega) parent otherParent

end

/-- No pane is made by two divisions. -/
theorem created_nodup (position : Position) (layout : Layout) :
    ((layout.divisions position).map Division.created).Nodup := by
  refine List.pairwise_map.mpr ((layout.divisions_ordered position).imp ?_)
  intro division later ordered same
  obtain ⟨parent, indices⟩ := List.append_inj' same rfl
  have less := ordered.1 parent
  simp only [List.cons.injEq, and_true] at indices
  omega

/-- What a division leads comes after it. -/
theorem sublist_of_leads {position : Position} {layout : Layout}
    {division later : Division} (member : division ∈ layout.divisions position)
    (laterMember : later ∈ layout.divisions position)
    (leads : division.Leads later) :
    [division, later].Sublist (layout.divisions position) := by
  have ordered := layout.divisions_ordered position
  obtain ⟨before, after, parts⟩ := List.append_of_mem member
  rw [parts] at laterMember ordered ⊢
  rcases List.mem_append.mp laterMember with isBefore | isHere
  · -- Then the two stand in the other order.
    obtain ⟨ofChildren, notBelow⟩ :=
      (List.pairwise_append.mp ordered).2.2 later isBefore division
        List.mem_cons_self
    rcases leads with ⟨same, less⟩ | ⟨index, rest, below⟩
    · exact absurd (ofChildren same.symm) less.asymm
    · exact absurd below (notBelow index rest)
  · rcases List.mem_cons.mp isHere with rfl | isAfter
    · exact absurd leads (Division.Leads.irrefl later)
    · exact ((List.singleton_sublist.mpr isAfter).cons_cons division).trans
        (List.sublist_append_right before _)

/-! ### How many there are -/

theorem length_ownDivisions (orientation : Orientation) (position : Position)
    (index : Nat) (panes : List Layout) :
    (ownDivisions orientation position index panes).length =
      panes.length - 1 := by
  induction panes generalizing index with
  | nil => rfl
  | cons pane panes induction =>
      cases panes with
      | nil => rfl
      | cons next rest =>
          rw [ownDivisions, List.length_cons, induction]
          rfl

mutual

/-- There is one division less than there are leaves. -/
theorem length_divisions : ∀ (position : Position) (layout : Layout),
    layout.HasChildren →
    (layout.divisions position).length + 1 = layout.terminals.length
  | _, .terminal _, _ => rfl
  | position, .split orientation _ panes, ⟨nonempty, children⟩ => by
      have below := length_divisionsList position 0 panes children
      have some := List.length_pos_of_ne_nil nonempty
      rw [divisions, List.length_append, length_ownDivisions, terminals]
      omega

/-- The children of a split have as many leaves more than divisions as they
are. -/
theorem length_divisionsList : ∀ (position : Position) (index : Nat)
    (panes : List Layout), HasChildrenList panes →
    (divisionsList position index panes).length + panes.length =
      (terminalsList panes).length
  | _, _, [], _ => rfl
  | position, index, pane :: panes, ⟨has, children⟩ => by
      have first := length_divisions (position ++ [index]) pane has
      have later := length_divisionsList position (index + 1) panes children
      rw [divisionsList, List.length_append, List.length_cons, terminalsList,
        List.length_append]
      omega

end

end Layout

end PaneLayout
