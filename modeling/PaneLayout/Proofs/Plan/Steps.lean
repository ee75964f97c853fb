import PaneLayout.Proofs.Plan.Recorded
import PaneLayout.Proofs.Plan.Sequence
import PaneLayout.Proofs.Plan.Terminals

/-!
# The steps of an emission

The split steps of a plan make every pane but the one that the window starts
with.  Each child of a split but the first is made once, out of the pane of the
child before it, and no step waits for a later one.
-/

namespace PaneLayout

/-! ### Ids of steps -/

theorem Position.colon_notMem_paneId (position : Position) :
    ':' ∉ position.paneId.toList := by
  induction position using List.reverseRecOn with
  | nil => decide
  | append_singleton position index induction =>
      rw [paneId_concat, childPaneId_eq, String.toList_append,
        String.toList_append, List.mem_append, List.mem_append, not_or, not_or]
      exact ⟨⟨induction, by decide⟩, not_mem_toString rfl index⟩

/-- An id with a colon after it is told from what follows. -/
theorem Position.paneId_append_cancel {position other : Position}
    {suffix otherSuffix : List Char}
    (same : position.paneId.toList ++ ':' :: suffix =
      other.paneId.toList ++ ':' :: otherSuffix) :
    position = other ∧ suffix = otherSuffix := by
  have separated := position.colon_notMem_paneId
  have otherSeparated := other.colon_notMem_paneId
  rcases List.append_eq_append_iff.mp same with
    ⟨between, isOther, rest⟩ | ⟨between, isFirst, rest⟩
  · cases between with
    | nil =>
        rw [List.append_nil] at isOther
        exact ⟨paneId_injective (String.toList_injective isOther.symm),
          (List.cons.inj rest).2⟩
    | cons c between =>
        cases rest
        simp [isOther] at otherSeparated
  · cases between with
    | nil =>
        rw [List.append_nil] at isFirst
        exact ⟨paneId_injective (String.toList_injective isFirst),
          (List.cons.inj rest).2.symm⟩
    | cons c between =>
        cases rest
        simp [isFirst] at separated

namespace Division

theorem stepId_toList (division : Division) :
    division.stepId.toList = division.parent.paneId.toList ++
      ':' :: ("split:".toList ++ (toString (division.index + 1)).toList) := by
  simp [stepId]

theorem eq_of_stepId {division other : Division}
    (same : division.stepId = other.stepId) :
    division.parent = other.parent ∧ division.index = other.index := by
  have characters := congrArg String.toList same
  rw [stepId_toList, stepId_toList] at characters
  obtain ⟨parent, digits⟩ := Position.paneId_append_cancel characters
  have indices := Position.toString_injective
    (String.toList_injective (List.append_cancel_left digits))
  exact ⟨parent, Nat.succ.inj indices⟩

theorem stepId_ne_focus (division : Division) (position : Position) :
    division.stepId ≠ position.paneId ++ ":focus" := by
  intro same
  have characters := congrArg String.toList same
  have focus : (position.paneId ++ ":focus").toList =
      position.paneId.toList ++ ':' :: "focus".toList := by simp
  rw [stepId_toList, focus] at characters
  have letters := (Position.paneId_append_cancel characters).2
  cases congrArg List.head? letters

end Division

/-! ### Steps on a plan -/

/-- The step belongs to the split at a position.  It divides the pane of the
child with the index to make the pane of the next one. -/
def SplitStep.Divides (root : PlanNode) (parent : Position) (index : Nat)
    (step : SplitStep) : Prop :=
  ∃ id orientation ratio panes target created,
    root.at? parent = some (.split id orientation ratio panes) ∧
      panes[index]? = some target ∧ panes[index + 1]? = some created ∧
      step.id = id ++ ":split:" ++ toString (index + 1) ∧
      step.targetPaneId = some target.id ∧
      step.createdPaneId = some created.id ∧
      step.orientation = some orientation

/-- Split steps make the panes of a plan in an order in which each of them can
be carried out. -/
structure PlanNode.IsBuiltBy (root : PlanNode) (steps : List SplitStep) :
    Prop where
  divides : ∀ step ∈ steps, ∃ parent index, step.Divides root parent index
  /-- No pane is made twice. -/
  created_nodup : (steps.map SplitStep.createdPaneId).Nodup
  /-- The panes that are made are those of the later children of splits. -/
  mem_created_iff : ∀ id, some id ∈ steps.map SplitStep.createdPaneId ↔
    ∃ parent index node, root.at? (parent ++ [index + 1]) = some node ∧
      node.id = id
  /-- The steps of a split follow the order of its children. -/
  children_ordered : ∀ first ∈ steps, ∀ later ∈ steps,
    ∀ parent index other, first.Divides root parent index →
      later.Divides root parent other → index < other →
      [first, later].Sublist steps
  /-- The steps of a split come before those of the splits below. -/
  parent_first : ∀ first ∈ steps, ∀ later ∈ steps,
    ∀ parent child rest index other, first.Divides root parent index →
      later.Divides root (parent ++ child :: rest) other →
      [first, later].Sublist steps
  /-- A split or the lowest node above it that is not a first child is made
  before the split has a step. -/
  creator_first : ∀ step ∈ steps, ∀ above child depth index,
    step.Divides root (above ++ (child + 1) :: List.replicate depth 0) index →
    ∃ creator ∈ steps, creator.Divides root above child ∧
      [creator, step].Sublist steps

/-! ### From divisions to steps -/

/-- Items that are related to different keys are the values of a function on the
keys. -/
theorem exists_map_eq_of_forall₂ {α β : Type} [DecidableEq α] [Nonempty β]
    {relation : α → β → Prop} {keys : List α} {items : List β}
    (distinct : keys.Nodup) (related : List.Forall₂ relation keys items) :
    ∃ itemOf : α → β, items = keys.map itemOf ∧
      ∀ key ∈ keys, relation key (itemOf key) := by
  induction related with
  | nil => exact ⟨fun _ => Classical.arbitrary β, rfl, List.forall_mem_nil _⟩
  | @cons key item keys items here later induction =>
      obtain ⟨isNew, distinct⟩ := List.nodup_cons.mp distinct
      obtain ⟨itemOf, rfl, related⟩ := induction distinct
      have elsewhere : ∀ other ∈ keys,
          Function.update itemOf key item other = itemOf other := by
        intro other member
        refine Function.update_of_ne ?_ _ _
        rintro rfl
        exact isNew member
      refine ⟨Function.update itemOf key item, ?_, ?_⟩
      · rw [List.map_cons, Function.update_self, List.map_congr_left elsewhere]
      · rw [List.forall_mem_cons, Function.update_self]
        refine ⟨here, fun other member => ?_⟩
        rw [elsewhere other member]
        exact related other member

namespace PlanNode

theorem at?_append (node : PlanNode) (position rest : Position) :
    node.at? (position ++ rest) =
      (node.at? position).bind fun inner => inner.at? rest := by
  induction position generalizing node with
  | nil => rfl
  | cons index position induction =>
      cases node with
      | terminal => rfl
      | split id orientation ratio panes =>
          simp only [List.cons_append, at?, Option.bind_assoc, induction]

theorem at?_concat_eq_some_iff {root node : PlanNode} {parent : Position}
    {index : Nat} :
    root.at? (parent ++ [index]) = some node ↔
      ∃ id orientation ratio panes,
        root.at? parent = some (.split id orientation ratio panes) ∧
          panes[index]? = some node := by
  rw [at?_append, Option.bind_eq_some_iff]
  constructor
  · rintro ⟨inner, found, isChild⟩
    cases inner with
    | terminal => cases isChild
    | split id orientation ratio panes =>
        obtain ⟨child, isChild, same⟩ := Option.bind_eq_some_iff.mp isChild
        cases same
        exact ⟨id, orientation, ratio, panes, found, isChild⟩
  · rintro ⟨id, orientation, ratio, panes, found, isChild⟩
    exact ⟨_, found, Option.bind_eq_some_iff.mpr ⟨node, isChild, rfl⟩⟩

end PlanNode

section Built

variable {layout : Layout} {root : PlanNode} {division : Division}
  {step : SplitStep}

theorem Plans.at?_id_eq (plans : Plans [] layout root) {position : Position}
    {node : PlanNode} (found : root.at? position = some node) :
    node.id = position.paneId := by
  obtain ⟨_, isPlanned⟩ := plans.at? found
  exact isPlanned.id_eq

theorem Plans.mem_divisions_root_iff (plans : Plans [] layout root) :
    division ∈ layout.divisions [] ↔ division.IsOf root division.parent := by
  rw [plans.mem_divisions_iff]
  constructor
  · rintro ⟨rest, parent, isOf⟩
    rw [parent]
    exact isOf
  · exact fun isOf => ⟨_, rfl, isOf⟩

theorem Realizes.divides (plans : Plans [] layout root)
    (member : division ∈ layout.divisions [])
    (realizes : Realizes division step) :
    step.Divides root division.parent division.index := by
  obtain ⟨id, ratio, panes, found, inside⟩ :=
    plans.mem_divisions_root_iff.mp member
  have children : ∀ index (isChild : index < panes.length),
      Position.paneId (division.parent ++ [index]) = panes[index].id := by
    intro index isChild
    exact (plans.at?_id_eq (PlanNode.at?_concat_eq_some_iff.mpr
      ⟨_, _, _, _, found, List.getElem?_eq_getElem isChild⟩)).symm
  have targetInside : division.index < panes.length :=
    Nat.lt_of_succ_lt inside
  refine ⟨id, division.orientation, ratio, panes, panes[division.index],
    panes[division.index + 1], found, List.getElem?_eq_getElem targetInside,
    List.getElem?_eq_getElem inside, ?_, ?_, ?_, realizes.orientation⟩
  · have splitId : id = division.parent.paneId := plans.at?_id_eq found
    rw [realizes.id, Division.stepId, splitId]
  · rw [realizes.target, Division.target, children _ targetInside]
  · rw [realizes.created, Division.created, children _ inside]

theorem SplitStep.Divides.eq_of_realizes (plans : Plans [] layout root)
    {parent : Position} {index : Nat} (divides : step.Divides root parent index)
    (realizes : Realizes division step) :
    division.parent = parent ∧ division.index = index := by
  obtain ⟨id, orientation, _, _, _, _, found, _, _, stepId, _⟩ := divides
  have splitId : id = parent.paneId := plans.at?_id_eq found
  rw [realizes.id, splitId] at stepId
  have same : division.stepId = Division.stepId ⟨orientation, parent, index⟩ :=
    stepId
  exact Division.eq_of_stepId same

theorem Plans.exists_division (plans : Plans [] layout root)
    {parent : Position} {index : Nat} {node : PlanNode}
    (found : root.at? (parent ++ [index + 1]) = some node) :
    ∃ division ∈ layout.divisions [],
      division.parent = parent ∧ division.index = index := by
  obtain ⟨id, orientation, ratio, panes, isSplit, isChild⟩ :=
    PlanNode.at?_concat_eq_some_iff.mp found
  refine ⟨⟨orientation, parent, index⟩, ?_, rfl, rfl⟩
  exact plans.mem_divisions_root_iff.mpr
    ⟨id, ratio, panes, isSplit, (List.getElem?_eq_some_iff.mp isChild).1⟩

theorem Plans.exists_created (plans : Plans [] layout root)
    (member : division ∈ layout.divisions []) :
    ∃ node, root.at? division.created = some node ∧
      node.id = division.created.paneId := by
  obtain ⟨id, ratio, panes, found, inside⟩ :=
    plans.mem_divisions_root_iff.mp member
  have isCreated : root.at? division.created =
      some panes[division.index + 1] :=
    PlanNode.at?_concat_eq_some_iff.mpr
      ⟨_, _, _, _, found, List.getElem?_eq_getElem inside⟩
  exact ⟨_, isCreated, plans.at?_id_eq isCreated⟩

theorem Plans.isBuiltBy (plans : Plans [] layout root)
    {splits : List SplitStep}
    (realize : List.Forall₂ Realizes (layout.divisions []) splits) :
    root.IsBuiltBy splits := by
  have : Nonempty SplitStep := ⟨{ id := "", summary := "" }⟩
  obtain ⟨stepOf, rfl, realizes⟩ :=
    exists_map_eq_of_forall₂ (.of_map _ (layout.created_nodup [])) realize
  have createdIds : ((layout.divisions []).map stepOf).map
      SplitStep.createdPaneId = ((layout.divisions []).map Division.created).map
        fun created => some created.paneId := by
    rw [List.map_map, List.map_map]
    exact List.map_congr_left fun division member =>
      (realizes division member).created
  -- A step leads another one if its division leads the other division.
  have led : ∀ division ∈ layout.divisions [],
      ∀ later ∈ layout.divisions [], division.Leads later →
        [stepOf division, stepOf later].Sublist
          ((layout.divisions []).map stepOf) :=
    fun _ member _ laterMember leads =>
      (Layout.sublist_of_leads member laterMember leads).map stepOf
  constructor
  · rw [List.forall_mem_map]
    exact fun division member =>
      ⟨_, _, (realizes division member).divides plans member⟩
  · rw [createdIds]
    exact (layout.created_nodup []).map fun created other same =>
      Position.paneId_injective (Option.some.inj same)
  · intro id
    rw [createdIds, List.map_map, List.mem_map]
    constructor
    · rintro ⟨division, member, same⟩
      obtain ⟨node, found, nodeId⟩ := plans.exists_created member
      exact ⟨_, _, node, found, nodeId.trans (Option.some.inj same)⟩
    · rintro ⟨parent, index, node, found, rfl⟩
      obtain ⟨division, member, rfl, rfl⟩ := plans.exists_division found
      exact ⟨division, member, congrArg some (plans.at?_id_eq found).symm⟩
  · simp only [List.forall_mem_map]
    intro division member later laterMember parent index other divides
      laterDivides less
    obtain ⟨rfl, rfl⟩ := divides.eq_of_realizes plans (realizes _ member)
    obtain ⟨same, rfl⟩ :=
      laterDivides.eq_of_realizes plans (realizes _ laterMember)
    exact led _ member _ laterMember (.inl ⟨same.symm, less⟩)
  · simp only [List.forall_mem_map]
    intro division member later laterMember parent child rest index other
      divides laterDivides
    obtain ⟨rfl, rfl⟩ := divides.eq_of_realizes plans (realizes _ member)
    obtain ⟨below, rfl⟩ :=
      laterDivides.eq_of_realizes plans (realizes _ laterMember)
    exact led _ member _ laterMember (.inr ⟨child, rest, below⟩)
  · rw [List.forall_mem_map]
    intro division member above child depth index divides
    obtain ⟨below, rfl⟩ := divides.eq_of_realizes plans (realizes _ member)
    obtain ⟨id, orientation, ratio, panes, _, _, found, _⟩ := divides
    rw [List.append_cons, PlanNode.at?_append] at found
    obtain ⟨node, isMade, _⟩ := Option.bind_eq_some_iff.mp found
    obtain ⟨creator, creatorMember, rfl, rfl⟩ := plans.exists_division isMade
    exact ⟨stepOf creator, List.mem_map_of_mem creatorMember,
      (realizes _ creatorMember).divides plans creatorMember,
      led _ creatorMember _ member (.inr ⟨_, _, below⟩)⟩

end Built

theorem RealizeAll.exists_splits {divisions : List Division} {steps : List Step}
    (realize : RealizeAll divisions steps) :
    ∃ splits : List SplitStep, steps = splits.map .split ∧
      List.Forall₂ Realizes divisions splits := by
  induction realize with
  | nil => exact ⟨[], rfl, .nil⟩
  | cons here later induction =>
      obtain ⟨first, rfl, realizes⟩ := here
      obtain ⟨splits, rfl, realize⟩ := induction
      exact ⟨first :: splits, rfl, .cons realizes realize⟩

theorem stepIds_eq {divisions : List Division} {splits : List SplitStep}
    (realize : List.Forall₂ Realizes divisions splits) :
    splits.map SplitStep.id = divisions.map Division.stepId := by
  induction realize with
  | nil => rfl
  | cons realizes _ induction =>
      rw [List.map_cons, List.map_cons, realizes.id, induction]

theorem stepIds_nodup {layout : Layout} {splits : List SplitStep}
    (realize : List.Forall₂ Realizes (layout.divisions []) splits)
    (position : Position) :
    (splits.map SplitStep.id ++ [position.paneId ++ ":focus"]).Nodup := by
  have distinct : ((layout.divisions []).map Division.stepId).Nodup := by
    refine List.pairwise_map.mpr ((layout.divisions_ordered []).imp ?_)
    intro division later ordered same
    obtain ⟨parent, index⟩ := Division.eq_of_stepId same
    exact absurd index (ordered.1 parent).ne
  rw [stepIds_eq realize, List.nodup_append]
  refine ⟨distinct, List.nodup_singleton _, ?_⟩
  simp only [List.forall_mem_map, List.forall_mem_singleton]
  exact fun division _ => division.stepId_ne_focus position

/-! ### Steps of compiled presets -/

/-- The split steps of a plan make its panes, each of them once and in an order
that can be carried out.  An emission adds the step that selects the pane with
the focus, and it has as many steps as terminals. -/
theorem Plan.steps_build_panes {source : String} {value : Value}
    {preset : Preset} {plan : Plan}
    (compiled : Preset.ofValue source value = .ok preset)
    (planned : ofPreset preset = .ok plan) :
    ∃ splits : List SplitStep,
      plan.root.splitSteps = .ok (splits.map .split) ∧
      plan.root.IsBuiltBy splits ∧
      splits.length + 1 = plan.root.terminals.length ∧
      (∀ emission, plan.emit = .ok emission →
        ∃ focus, emission.steps = splits.map .split ++ [.focus focus] ∧
          focus.targetPaneId = some emission.summary.focusPaneId ∧
          emission.summary.focusPaneId = plan.focusPaneId ∧
          (splits.map SplitStep.id ++ [focus.id]).Nodup ∧
          emission.summary.stepsCount = emission.terminals.length) ∧
      FaultsOnly (Fault.IsDue (value.Everywhere Compile.InLimits)
        (value.Everywhere Value.IsEncodable)) plan.emit := by
  have isCompiled := Preset.builtLayout_isCompiled compiled
  have children := isCompiled.hasChildren
  obtain ⟨plans, focused⟩ := plans_ofPreset children planned
  obtain ⟨leaf, _, isFocus⟩ := List.mem_map.mp focused
  obtain ⟨steps, made, _⟩ := PlanNode.exists_splitSteps
    (isSized_ofPreset isCompiled planned)
    (isRecordable_ofPreset (Preset.builtLayout_isRecordable compiled) planned)
  obtain ⟨splits, rfl, realize⟩ :=
    (PlanNode.splitSteps_realize plans made).exists_splits
  have count : splits.length + 1 = plan.root.terminals.length := by
    rw [terminals_ofPreset planned, List.length_map, ← realize.length_eq,
      Layout.length_divisions [] _ children, ← Layout.map_snd_leaves [],
      List.length_map]
  refine ⟨splits, made, plans.isBuiltBy realize, count, ?_,
    emit_faultsOnly_ofPreset compiled planned⟩
  intro emission emitted
  obtain ⟨others, othersMade, emitted⟩ := exists_of_bind_eq_ok emitted
  obtain ⟨initial, _, emitted⟩ := exists_of_bind_eq_ok emitted
  obtain ⟨hash, _, emitted⟩ := exists_of_bind_eq_ok emitted
  cases made.symm.trans othersMade
  cases emitted
  refine ⟨plan.focusStep, rfl, rfl, rfl, ?_, ?_⟩
  · have ids := stepIds_nodup realize leaf.1
    rwa [isFocus] at ids
  · change (splits.map Step.split ++ [Step.focus plan.focusStep]).length =
      (plan.root.terminals.map EmittedTerminal.ofPlanned).length
    rw [List.length_append, List.length_map, List.length_map, ← count]
    rfl

/-- A pane beside two that are one below the other in a split of their own, with
a split of a single child around it. -/
def Preset.wrappedPair : Value :=
  .record [("layout", .record [
    ("type", .text "horizontal"),
    ("ratio", .list [.text "30c", .int 1]),
    ("panes", .list [
      .record [
        ("type", .text "horizontal"),
        ("ratio", .list [.int 1]),
        ("panes", .list [.record [
          ("type", .text "vertical"),
          ("ratio", .list [.int 1, .int 3]),
          ("panes", .list [
            .record [("name", .text "shell")],
            .record [("name", .text "log")]])]])],
      .record [("command", .text "top")]])])]

theorem Plan.steps_build_wrappedPair :
    ∃ preset plan splits,
      Preset.ofValue "local" Preset.wrappedPair = .ok preset ∧
      ofPreset preset = .ok plan ∧
      plan.root.splitSteps = .ok (splits.map Step.split) ∧
      plan.root.IsBuiltBy splits ∧
      splits.map
          (fun step => (step.id, step.targetPaneId, step.createdPaneId)) =
        [("root:split:1", some "root.0", some "root.1"),
          ("root.0.0:split:1", some "root.0.0.0", some "root.0.0.1")] := by
  have evaluated : (Preset.ofValue "local" Preset.wrappedPair).toOption.bind
      (fun preset => (ofPreset preset).toOption.bind fun plan =>
        plan.root.splitSteps.toOption.map fun steps => steps.map fun step =>
          match step with
          | .split step => (step.id, step.targetPaneId, step.createdPaneId)
          | _ => ("", none, none)) =
      some [("root:split:1", some "root.0", some "root.1"),
        ("root.0.0:split:1", some "root.0.0.0", some "root.0.0.1")] := by
    decide +kernel
  obtain ⟨preset, compiled, evaluated⟩ := Option.bind_eq_some_iff.mp evaluated
  obtain ⟨plan, planned, evaluated⟩ := Option.bind_eq_some_iff.mp evaluated
  obtain ⟨steps, made, ids⟩ := Option.map_eq_some_iff.mp evaluated
  have compiled := ok_of_toOption_eq_some compiled
  have planned := ok_of_toOption_eq_some planned
  have made := ok_of_toOption_eq_some made
  obtain ⟨splits, areSplits, built, _⟩ := steps_build_panes compiled planned
  cases areSplits.symm.trans made
  rw [List.map_map] at ids
  exact ⟨preset, plan, splits, compiled, planned, areSplits, built, ids⟩

end PaneLayout
