import PaneLayout.Proofs.Plan.Leaves

/-!
# Terminals of plans and emissions

Planning and emitting hand on the leaves of a layout one for one.  A plan gives
them the ids of their positions and decides which of them has the focus, and an
emission lists them as they are.
-/

namespace PaneLayout

/-! ### The focus -/

namespace Plan

/-- Every terminal that asks for the focus is the one that gets it. -/
theorem eq_of_focusOf {root : PlanNode} {focusPaneId : String}
    (ok : focusOf root = .ok focusPaneId) {entry : String × Terminal}
    (member : entry ∈ root.terminals) (asks : entry.2.focus = true) :
    entry.1 = focusPaneId := by
  have asking : entry.1 ∈ root.focusIds :=
    List.mem_map_of_mem (List.mem_filter.mpr ⟨member, asks⟩)
  unfold focusOf at ok
  split at ok
  · cases ok
  · cases ok
  · next isOnly _ =>
    cases ok
    rw [isOnly] at asking
    exact List.mem_singleton.mp asking
  · next isNone _ =>
    rw [isNone] at asking
    cases asking

/-- If no terminal asks for the focus, the first one gets it. -/
theorem head?_of_focusOf {root : PlanNode} {focusPaneId : String}
    (ok : focusOf root = .ok focusPaneId)
    (nobody : ∀ entry ∈ root.terminals, entry.2.focus = false) :
    root.terminals.head?.map Prod.fst = some focusPaneId := by
  have noIds : root.focusIds = [] := by
    rw [PlanNode.focusIds, List.map_eq_nil_iff, List.filter_eq_nil_iff]
    intro entry member
    simp [nobody entry member]
  unfold focusOf at ok
  rw [noIds] at ok
  rw [← List.head?_map]
  change root.terminalIds.head? = _
  cases ids : root.terminalIds with
  | nil =>
      rw [ids] at ok
      cases ok
  | cons first rest =>
      rw [ids] at ok
      cases ok
      rfl

end Plan

/-! ### What planning makes of leaves -/

/-- A leaf at its position, with the focus if it has the given id. -/
def plannedLeaf (focusPaneId : String) (leaf : Position × Terminal) :
    String × Terminal :=
  PlanNode.focused focusPaneId (leaf.1.paneId, leaf.2)

namespace Plan

theorem plans_root {preset : Preset} {plan : Plan}
    (ok : ofPreset preset = .ok plan) :
    Plans [] preset.builtLayout plan.root := by
  unfold Preset.builtLayout
  cases hasLayout : preset.layout with
  | none =>
      rw [ofPreset, hasLayout] at ok
      cases ok
      exact .terminal
  | some layout =>
      obtain ⟨root, focusPaneId, planned, -, rfl⟩ :=
        exists_of_ofPreset hasLayout ok
      exact (plans_planned [] _ layout root planned).withFocus focusPaneId

theorem terminals_planned_root {path : String} {layout : Layout}
    {root : PlanNode} (planned : layout.planned rootPaneId path = .ok root) :
    root.terminals =
      (layout.leaves []).map fun leaf => (leaf.1.paneId, leaf.2) := by
  have atRoot : layout.planned (Position.paneId []) path = .ok root := planned
  exact terminals_planned_leaves atRoot

/-- The terminals of a plan are the leaves of the layout with their ids. -/
theorem terminals_ofPreset {preset : Preset} {plan : Plan}
    (ok : ofPreset preset = .ok plan) :
    plan.root.terminals =
      (preset.builtLayout.leaves []).map (plannedLeaf plan.focusPaneId) := by
  unfold Preset.builtLayout
  cases hasLayout : preset.layout with
  | none =>
      rw [ofPreset, hasLayout] at ok
      cases ok
      rfl
  | some layout =>
      obtain ⟨root, focusPaneId, planned, -, rfl⟩ :=
        exists_of_ofPreset hasLayout ok
      rw [PlanNode.terminals_withFocus, terminals_planned_root planned,
        List.map_map]
      rfl

/-- A leaf has the focus, and one leaf only.  It is the leaf that asks for it, or
the first one if no leaf does. -/
structure FocusesOne (layout : Layout) (plan : Plan) : Prop where
  only : ∃ leaf, plan.root.terminals.filter (fun entry => entry.2.focus) =
    [(plan.focusPaneId, leaf)]
  asking : ∀ position leaf, (position, leaf) ∈ layout.leaves [] →
    leaf.focus = true → plan.focusPaneId = position.paneId
  first : (∀ entry ∈ layout.leaves [], entry.2.focus = false) →
    (layout.leaves []).head?.map (fun entry => entry.1.paneId) =
      some plan.focusPaneId

theorem focusesOne_ofPreset {preset : Preset} {plan : Plan}
    (ok : ofPreset preset = .ok plan) :
    plan.FocusesOne preset.builtLayout := by
  unfold Preset.builtLayout
  cases hasLayout : preset.layout with
  | none =>
      rw [ofPreset, hasLayout] at ok
      cases ok
      refine ⟨⟨_, rfl⟩, ?_, fun _ => rfl⟩
      intro position leaf member _
      cases List.mem_singleton.mp member
      rfl
  | some layout =>
      obtain ⟨root, focusPaneId, planned, focused, rfl⟩ :=
        exists_of_ofPreset hasLayout ok
      have leaves := terminals_planned_root planned
      constructor
      · obtain ⟨entry, member, rfl⟩ := List.mem_map.mp (focusOf_mem focused)
        rw [PlanNode.terminals_withFocus]
        refine ⟨_, PlanNode.filter_focused ?_ member⟩
        rw [leaves, List.map_map]
        have distinct := (layout.leaves_nodup []).map
          Position.paneId_injective
        rwa [List.map_map] at distinct
      · intro position leaf member asks
        have planned : (position.paneId, leaf) ∈ root.terminals := by
          rw [leaves]
          exact List.mem_map.mpr ⟨(position, leaf), member, rfl⟩
        exact (eq_of_focusOf focused planned asks).symm
      · intro nobody
        have first := head?_of_focusOf focused (by
          rw [leaves, List.forall_mem_map]
          exact nobody)
        rwa [leaves, List.head?_map, Option.map_map] at first

/-- Ids spell positions, so that they tell nodes apart and show which node is
above which, and exactly one terminal has the focus. -/
theorem ids_and_focus_ofPreset {preset : Preset} {plan : Plan}
    (ok : ofPreset preset = .ok plan) :
    plan.root.SpellsPositions ∧ plan.FocusesOne preset.builtLayout :=
  ⟨(plans_root ok).spellsPositions, focusesOne_ofPreset ok⟩

end Plan

/-- A layout with a split that has no children and a leaf that asks for the
focus. -/
def Preset.focusedSecond : Preset where
  name := "Nested"
  source := "local"
  layout := some (.split .horizontal [] [
    .split .vertical [] [],
    .split .vertical [] [.terminal { name := "log" },
      .terminal { name := "shell", focus := true }]])

theorem Plan.ids_and_focus_focusedSecond :
    ∃ plan, ofPreset .focusedSecond = .ok plan ∧
      plan.focusPaneId = "root.1.1" ∧ plan.root.SpellsPositions ∧
      plan.FocusesOne Preset.focusedSecond.builtLayout := by
  refine ⟨_, rfl, by decide, ?_⟩
  exact ids_and_focus_ofPreset rfl

/-! ### What emitting makes of leaves -/

mutual

/-- An emission starts at the first terminal. -/
theorem PlanNode.head?_of_initialPaneId : ∀ {node : PlanNode} {id : String},
    node.initialPaneId = .ok id →
    node.terminals.head?.map Prod.fst = some id
  | .terminal _ _, _, ok => by
      cases ok
      rfl
  | .split _ _ _ _, _, ok => head?_of_initialPaneIdList ok

theorem PlanNode.head?_of_initialPaneIdList : ∀ {panes : List PlanNode}
    {id : String}, initialPaneIdList panes = .ok id →
    (terminalsList panes).head?.map Prod.fst = some id
  | [], _, ok => nomatch ok
  | pane :: panes, id, ok => by
      have starts : pane.initialPaneId = .ok id := ok
      have first := head?_of_initialPaneId starts
      obtain ⟨entry, isFirst, rfl⟩ := Option.map_eq_some_iff.mp first
      rw [terminalsList, List.head?_append, isFirst]
      rfl

end

theorem Plan.terminals_emit {plan : Plan} {emission : Emission}
    (emitted : plan.emit = .ok emission) :
    emission.terminals = plan.root.terminals.map .ofPlanned := by
  obtain ⟨_, _, emitted⟩ := exists_of_bind_eq_ok emitted
  obtain ⟨_, _, emitted⟩ := exists_of_bind_eq_ok emitted
  obtain ⟨_, _, made⟩ := exists_of_bind_eq_ok emitted
  cases made
  rfl

/-- None of the terminals that are configured is above another one. -/
theorem Prepared.terminals_apart {source : String} {value : Value}
    {prepared : Prepared} (accepted : ofValue source value = .ok prepared) :
    prepared.emission.terminals.Pairwise fun terminal other =>
      ¬ PaneMap.Related terminal.virtualPaneId other.virtualPaneId := by
  obtain ⟨_, planned, emitted⟩ := stages_ofValue accepted
  rw [Plan.terminals_emit emitted, Plan.terminals_ofPreset planned,
    List.map_map, List.pairwise_map]
  refine (Layout.leaves_apart [] _).imp fun {leaf other} apart => ?_
  change ¬ PaneMap.Related leaf.1.paneId other.1.paneId
  rwa [PaneMap.Related, Position.atOrAbove_paneId_iff,
    Position.atOrAbove_paneId_iff, not_or]

/-- One of the terminals that are configured has the focus. -/
theorem Prepared.exists_focused {source : String} {value : Value}
    {prepared : Prepared} (accepted : ofValue source value = .ok prepared) :
    ∃ terminal ∈ prepared.emission.terminals,
      terminal.virtualPaneId = prepared.emission.summary.focusPaneId := by
  have builds := builds_ofValue accepted
  have focus := builds.focus
  rw [← builds.terminals] at focus
  exact List.mem_map.mp focus

/-- A leaf as it is configured.  Apart from the focus nothing is changed. -/
def EmittedTerminal.ofLeaf (focusPaneId : String) (position : Position)
    (leaf : Terminal) : EmittedTerminal where
  virtualPaneId := position.paneId
  name := leaf.name
  command := leaf.command
  cwd := leaf.cwd
  env := leaf.env
  delay := leaf.delay
  title := leaf.title
  focus := position.paneId == focusPaneId
  ephemeral := leaf.ephemeral
  closeOnError := leaf.closeOnError

/-- The terminals of an emission are the leaves of the layout in depth-first
order, and the first of them is where the emission starts. -/
theorem Plan.emit_keeps_leaves {preset : Preset} {layout : Layout} {plan : Plan}
    {emission : Emission} (hasLayout : preset.layout = some layout)
    (planned : ofPreset preset = .ok plan) (emitted : plan.emit = .ok emission) :
    (layout.leaves []).map Prod.snd = layout.terminals ∧
      emission.terminals = (layout.leaves []).map (fun leaf =>
        .ofLeaf emission.summary.focusPaneId leaf.1 leaf.2) ∧
      (emission.terminals.map EmittedTerminal.virtualPaneId).head? =
        some emission.summary.initialPaneId := by
  obtain ⟨splits, _, emitted⟩ := exists_of_bind_eq_ok emitted
  obtain ⟨initial, starts, emitted⟩ := exists_of_bind_eq_ok emitted
  obtain ⟨hash, _, made⟩ := exists_of_bind_eq_ok emitted
  cases made
  have terminals := terminals_ofPreset planned
  rw [Preset.builtLayout, hasLayout] at terminals
  refine ⟨layout.map_snd_leaves [], ?_, ?_⟩
  · rw [terminals, List.map_map]
    rfl
  · rw [List.map_map, List.head?_map]
    exact PlanNode.head?_of_initialPaneId starts

/-- Two panes side by side, the second of which asks for the focus. -/
def Preset.logBesideShell : Preset where
  name := "Pair"
  source := "local"
  layout := some (.split .horizontal [.weight 1, .weight 3] [
    .terminal { name := "log", command := some "top", delay := some 50 },
    .terminal {
      name := "shell", env := some [("B", "1"), ("A", "2")], focus := true }])

theorem Plan.emit_keeps_logBesideShell :
    ∃ plan emission, ofPreset .logBesideShell = .ok plan ∧
      plan.emit = .ok emission ∧ emission.summary.initialPaneId = "root.0" ∧
      emission.terminals = [
        { virtualPaneId := "root.0", name := "log", command := some "top",
          delay := some 50 },
        { virtualPaneId := "root.1", name := "shell",
          env := some [("B", "1"), ("A", "2")], focus := true }] := by
  have evaluated : (ofPreset .logBesideShell).toOption.bind (fun plan =>
      plan.emit.toOption.map fun emission => emission.summary.focusPaneId) =
        some "root.1" := by
    decide +kernel
  obtain ⟨plan, planned, evaluated⟩ := Option.bind_eq_some_iff.mp evaluated
  obtain ⟨emission, emitted, focus⟩ := Option.map_eq_some_iff.mp evaluated
  have planned := ok_of_toOption_eq_some planned
  have emitted := ok_of_toOption_eq_some emitted
  obtain ⟨_, terminals, initial⟩ := emit_keeps_leaves rfl planned emitted
  rw [focus] at terminals
  rw [terminals] at initial
  exact ⟨plan, emission, planned, emitted, (Option.some.inj initial).symm,
    terminals⟩

end PaneLayout
