import PaneLayout.Proofs.Plan.Prepared

/-!
# Sizes and delays of an emission

What a replay computes with is never out of range by itself.  The percentages of
an emission are those of a split, the weights of its dynamic sizes are shares,
and its delays are within the range of doubles.
-/

namespace PaneLayout

/-- A size that a planned split is given. -/
def Sizing.IsPlanned : Sizing → Prop
  | .percent percentage => (Sizing.percent percentage).IsGivable
  | .dynamic sizing => sizing.IsPlanned

/-- A split step has a size that a planned split is given. -/
def Step.IsSized : Step → Prop
  | .split step => ∃ sizing, step.sizing = some sizing ∧ sizing.IsPlanned
  | .focus _ => True
  | .unsupported _ _ => True

structure Emission.IsSized (emission : Emission) : Prop where
  steps : ∀ step ∈ emission.steps, step.IsSized
  terminals : ∀ terminal ∈ emission.terminals, DelayInRange terminal.delay

namespace PlanNode

mutual

/-- The ratios are normalized and the delays in range. -/
def IsSized : PlanNode → Prop
  | .terminal _ leaf => DelayInRange leaf.delay
  | .split _ _ ratio panes => ratio.IsNormalized ∧ IsSizedList panes

def IsSizedList : List PlanNode → Prop
  | [] => True
  | pane :: panes => pane.IsSized ∧ IsSizedList panes

end

/-! ### Nodes of a plan -/

mutual

theorem isSized_planned : ∀ (id path : String) (layout : Layout)
    (node : PlanNode), layout.IsCompiled →
      layout.planned id path = .ok node → node.IsSized
  | _, _, .terminal _, _, inRange, planned => by
      cases planned
      exact inRange
  | id, path, .split _ ratio panes, node, ⟨_, given, compiled⟩, planned => by
      obtain ⟨nodes, -, plannedPanes, rfl⟩ :=
        Layout.exists_of_planned_split planned
      exact ⟨⟨ratio, given, rfl⟩,
        isSizedList_planned id path 0 panes nodes compiled plannedPanes⟩

theorem isSizedList_planned : ∀ (id path : String) (index : Nat)
    (panes : List Layout) (nodes : List PlanNode),
    Layout.IsCompiledList panes →
      Layout.plannedList id path index panes = .ok nodes → IsSizedList nodes
  | _, _, _, [], _, _, planned => by
      cases planned
      exact trivial
  | id, path, index, pane :: panes, _, ⟨first, rest⟩, planned => by
      obtain ⟨node, nodes, plannedPane, plannedPanes, rfl⟩ :=
        Layout.exists_of_plannedList_cons planned
      exact ⟨isSized_planned _ _ pane node first plannedPane,
        isSizedList_planned id path (index + 1) panes nodes rest plannedPanes⟩

end

mutual

theorem IsSized.withFocus (focusPaneId : String) : ∀ {node : PlanNode},
    node.IsSized → (node.withFocus focusPaneId).IsSized
  | .terminal _ _, inRange => inRange
  | .split _ _ _ _, ⟨normalized, children⟩ =>
      ⟨normalized, IsSizedList.withFocus focusPaneId children⟩

theorem IsSizedList.withFocus (focusPaneId : String) :
    ∀ {panes : List PlanNode}, IsSizedList panes →
      IsSizedList (withFocusList focusPaneId panes)
  | [], _ => trivial
  | _ :: _, ⟨first, rest⟩ =>
      ⟨first.withFocus focusPaneId, IsSizedList.withFocus focusPaneId rest⟩

end

mutual

theorem IsSized.terminals : ∀ {node : PlanNode}, node.IsSized →
    ∀ entry ∈ node.terminals, DelayInRange entry.2.delay
  | .terminal _ _, inRange => List.forall_mem_singleton.mpr inRange
  | .split _ _ _ _, ⟨_, children⟩ => IsSizedList.terminals children

theorem IsSizedList.terminals : ∀ {panes : List PlanNode}, IsSizedList panes →
    ∀ entry ∈ terminalsList panes, DelayInRange entry.2.delay
  | [], _ => List.forall_mem_nil _
  | _ :: _, ⟨first, rest⟩ => by
      rw [terminalsList, List.forall_mem_append]
      exact ⟨first.terminals, IsSizedList.terminals rest⟩

end

/-! ### Split steps -/

theorem stepSize_isPlanned {ratio : Ratio} (normalized : ratio.IsNormalized)
    {index : Nat} {size : StepSize} (ok : stepSize ratio index = .ok size) :
    size.sizing.IsPlanned := by
  have givable := stepSize_isGivable ok
  unfold stepSize at ok
  split at ok
  · obtain ⟨sizing, sized, made⟩ := exists_of_bind_eq_ok ok
    cases made
    exact normalized.isPlanned sized
  · obtain ⟨percentage, _, made⟩ := exists_of_bind_eq_ok ok
    cases made
    exact givable

mutual

theorem IsSized.ratios : ∀ {node : PlanNode}, node.IsSized →
    ∀ ratio ∈ node.ratios, ratio.IsNormalized
  | .terminal _ _, _ => List.forall_mem_nil _
  | .split _ _ _ _, ⟨normalized, children⟩ =>
      List.forall_mem_cons.mpr ⟨normalized, IsSizedList.ratios children⟩

theorem IsSizedList.ratios : ∀ {panes : List PlanNode}, IsSizedList panes →
    ∀ ratio ∈ ratiosList panes, ratio.IsNormalized
  | [], _ => List.forall_mem_nil _
  | _ :: _, ⟨first, rest⟩ => by
      rw [ratiosList, List.forall_mem_append]
      exact ⟨first.ratios, IsSizedList.ratios rest⟩

end

theorem splitSteps_isSized {node : PlanNode} {steps : List Step}
    (sized : node.IsSized) (ok : node.splitSteps = .ok steps) :
    ∀ step ∈ steps, step.IsSized := by
  intro step member
  obtain ⟨_, _, _, _, _, ratio, isRatio, made⟩ :=
    splitSteps_madeFor ok step member
  obtain ⟨size, sizeOk, isStep⟩ := exists_of_bind_eq_ok made
  cases isStep
  exact ⟨_, rfl, stepSize_isPlanned (sized.ratios ratio isRatio) sizeOk⟩

end PlanNode

/-! ### Emissions -/

theorem Plan.isSized_ofPreset {preset : Preset} {plan : Plan}
    (compiled : preset.builtLayout.IsCompiled)
    (ok : ofPreset preset = .ok plan) : plan.root.IsSized := by
  unfold Preset.builtLayout at compiled
  cases hasLayout : preset.layout with
  | none =>
      rw [ofPreset, hasLayout] at ok
      cases ok
      exact delayInRange_none
  | some layout =>
      rw [hasLayout] at compiled
      obtain ⟨root, focusPaneId, planned, -, rfl⟩ :=
        exists_of_ofPreset hasLayout ok
      exact (PlanNode.isSized_planned _ _ layout root compiled
        planned).withFocus focusPaneId

theorem Plan.isSized_emit {plan : Plan} (sized : plan.root.IsSized)
    {emission : Emission} (ok : plan.emit = .ok emission) :
    emission.IsSized := by
  obtain ⟨splits, splitsOk, ok⟩ := exists_of_bind_eq_ok ok
  obtain ⟨initial, _, ok⟩ := exists_of_bind_eq_ok ok
  obtain ⟨hash, _, made⟩ := exists_of_bind_eq_ok ok
  cases made
  constructor
  · rw [List.forall_mem_append]
    exact ⟨PlanNode.splitSteps_isSized sized splitsOk, by simp [Step.IsSized]⟩
  · intro terminal member
    obtain ⟨entry, isEntry, rfl⟩ := List.mem_map.mp member
    exact sized.terminals entry isEntry

theorem Prepared.isSized_ofValue {source : String} {value : Value}
    {prepared : Prepared} (ok : ofValue source value = .ok prepared) :
    prepared.emission.IsSized := by
  obtain ⟨compiled, planned, emitted⟩ := stages_ofValue ok
  exact Plan.isSized_emit
    (Plan.isSized_ofPreset (Preset.builtLayout_isCompiled compiled) planned)
    emitted

end PaneLayout
