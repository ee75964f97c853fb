import PaneLayout.Prepared
import PaneLayout.Proofs.Compile.Layout
import PaneLayout.Proofs.Plan.Emitted

/-!
# What is prepared for a layout

A preset that is accepted has a layout whose splits have children.  Its emission
starts at the leftmost leaf, carries out the divisions of the layout, and
configures the leaves from left to right.
-/

namespace PaneLayout

/-! ### Compiled presets -/

namespace Preset

/-- The layout that is built for a preset.  One without a layout runs its own
command in a single pane. -/
def builtLayout (preset : Preset) : Layout :=
  preset.layout.getD (.terminal {
    name := preset.name, command := preset.command, focus := true })

/-- A preset that is accepted comes from a mapping. -/
theorem compiled_ofValue {source : String} {value : Value} {preset : Preset}
    (ok : ofValue source value = .ok preset) :
    ∃ entries layout, value = .mapping entries ∧
      Compile.layout entries = .ok layout ∧
      preset = {
        name := Compile.presetName entries
        command := Compile.textField entries "command"
        layout
        source } := by
  unfold ofValue at ok
  cases compiled : Compile.compile source value with
  | error error =>
      rw [compiled] at ok
      cases ok
  | ok made =>
      rw [compiled] at ok
      cases ok
      cases value with
      | mapping entries =>
          obtain ⟨layout, layoutOk, same⟩ := exists_of_bind_eq_ok compiled
          cases same
          exact ⟨entries, layout, rfl, layoutOk, rfl⟩
      | _ => cases compiled

theorem layout_ofValue {source : String} {value : Value} {preset : Preset}
    (ok : ofValue source value = .ok preset) :
    ∃ entries, value = .mapping entries ∧
      Compile.layout entries = .ok preset.layout := by
  obtain ⟨entries, layout, isMapping, layoutOk, rfl⟩ := compiled_ofValue ok
  exact ⟨entries, isMapping, layoutOk⟩

theorem builtLayout_isCompiled {source : String} {value : Value}
    {preset : Preset} (ok : ofValue source value = .ok preset) :
    preset.builtLayout.IsCompiled := by
  obtain ⟨entries, _, layoutOk⟩ := layout_ofValue ok
  unfold builtLayout
  cases hasLayout : preset.layout with
  | none => exact delayInRange_none
  | some layout =>
      rw [hasLayout] at layoutOk
      exact Compile.layout_isCompiled layoutOk

end Preset

/-! ### Plans of presets -/

theorem focusOf_mem {root : PlanNode} {focusPaneId : String}
    (ok : Plan.focusOf root = .ok focusPaneId) :
    focusPaneId ∈ root.terminalIds := by
  unfold Plan.focusOf at ok
  split at ok
  · cases ok
  · cases ok
  · rename_i asks _
    cases ok
    have isAsking : focusPaneId ∈ root.focusIds := by simp [asks]
    obtain ⟨entry, member, rfl⟩ := List.mem_map.mp isAsking
    exact List.mem_map_of_mem (List.mem_of_mem_filter member)
  · rename_i _ _ _ first _ ids
    cases ok
    simp [ids]

/-- The plan of a preset has the nodes of its layout, and the focus is on one of
its leaves. -/
theorem plans_ofPreset {preset : Preset} {plan : Plan}
    (children : preset.builtLayout.HasChildren)
    (ok : Plan.ofPreset preset = .ok plan) :
    Plans [] preset.builtLayout plan.root ∧
      plan.focusPaneId ∈ leafIds (preset.builtLayout.unfold []) := by
  unfold Preset.builtLayout at children ⊢
  cases hasLayout : preset.layout with
  | none =>
      rw [Plan.ofPreset, hasLayout] at ok
      cases ok
      exact ⟨.terminal, List.mem_singleton.mpr rfl⟩
  | some layout =>
      rw [hasLayout] at children
      obtain ⟨root, focusPaneId, planned, focused, rfl⟩ :=
        Plan.exists_of_ofPreset hasLayout ok
      have plans := plans_planned [] _ layout root planned
      have focus := focusOf_mem focused
      rw [PlanNode.terminalIds, plans.terminalIds_eq children] at focus
      exact ⟨plans.withFocus focusPaneId, focus⟩

/-! ### Emissions -/

/-- An emission builds a layout. -/
structure Emission.Builds (emission : Emission) (layout : Layout) : Prop where
  children : layout.HasChildren
  initial : emission.summary.initialPaneId =
    Position.paneId (layout.leftmost [])
  steps : ∃ splits focus, emission.steps = splits ++ [.focus focus] ∧
    CarryAll (layout.divisions []) splits ∧
    focus.targetPaneId = some emission.summary.focusPaneId
  terminals : emission.terminals.map EmittedTerminal.virtualPaneId =
    leafIds (layout.unfold [])
  focus : emission.summary.focusPaneId ∈ leafIds (layout.unfold [])

theorem builds_emit {layout : Layout} {plan : Plan} {emission : Emission}
    (children : layout.HasChildren) (plans : Plans [] layout plan.root)
    (focus : plan.focusPaneId ∈ leafIds (layout.unfold []))
    (ok : plan.emit = .ok emission) : emission.Builds layout := by
  obtain ⟨splits, splitsOk, ok⟩ := exists_of_bind_eq_ok ok
  obtain ⟨initial, initialOk, ok⟩ := exists_of_bind_eq_ok ok
  obtain ⟨hash, _, made⟩ := exists_of_bind_eq_ok ok
  cases made
  rw [plans.initialPaneId_eq children] at initialOk
  refine ⟨children, (Except.ok.inj initialOk).symm, ⟨splits, _, rfl,
    (PlanNode.splitSteps_realize plans splitsOk).carryAll, rfl⟩, ?_, focus⟩
  rw [← plans.terminalIds_eq children, List.map_map]
  rfl

/-- Every stage of a prepared preset has come to what is recorded. -/
theorem Prepared.stages_ofValue {source : String} {value : Value}
    {prepared : Prepared} (ok : ofValue source value = .ok prepared) :
    Preset.ofValue source value = .ok prepared.preset ∧
      Plan.ofPreset prepared.preset = .ok prepared.plan ∧
      prepared.plan.emit = .ok prepared.emission := by
  obtain ⟨preset, compiled, ok⟩ := exists_of_bind_eq_ok ok
  unfold ofPreset at ok
  split at ok
  · cases ok
  · next plan planned =>
    split at ok
    · cases ok
    · next emission emitted =>
      cases ok
      exact ⟨compiled, planned, emitted⟩

theorem Prepared.builds_ofValue {source : String} {value : Value}
    {prepared : Prepared} (ok : ofValue source value = .ok prepared) :
    prepared.emission.Builds prepared.preset.builtLayout := by
  obtain ⟨compiled, planned, emitted⟩ := stages_ofValue ok
  have children := (Preset.builtLayout_isCompiled compiled).hasChildren
  obtain ⟨plans, focus⟩ := plans_ofPreset children planned
  exact builds_emit children plans focus emitted

/-! ### Labels -/

/-- The problem under another label. -/
def Problem.relabeled (source : String) : Problem → Problem
  | .failure known => .failure { known with source := some source }
  | .fault cause => .fault cause

/-- The preset under another label. -/
def Prepared.relabeled (source : String) (prepared : Prepared) : Prepared :=
  { prepared with preset := { prepared.preset with source } }

theorem Preset.ofValue_relabeled (source other : String) (value : Value) :
    ofValue other value =
      match ofValue source value with
      | .ok preset => .ok { preset with source := other }
      | .error problem => .error (problem.relabeled other) := by
  cases value with
  | mapping entries =>
      unfold ofValue Compile.compile
      dsimp only
      cases Compile.layout entries with
      | ok layout => rfl
      | error error => cases error <;> rfl
  | _ => rfl

/-- The label of a preset shows up in what is prepared and in problems, and it
decides nothing. -/
theorem Prepared.ofValue_relabeled (source other : String) (value : Value) :
    ofValue other value =
      match ofValue source value with
      | .ok prepared => .ok (prepared.relabeled other)
      | .error problem => .error (problem.relabeled other) := by
  unfold ofValue
  rw [Preset.ofValue_relabeled source other]
  cases Preset.ofValue source value with
  | error problem => rfl
  | ok preset =>
      change ofPreset { preset with source := other } =
        match ofPreset preset with
        | .ok prepared => .ok (prepared.relabeled other)
        | .error problem => .error (problem.relabeled other)
      unfold ofPreset
      rw [show Plan.ofPreset { preset with source := other } =
        Plan.ofPreset preset from rfl]
      cases Plan.ofPreset preset with
      | error error => rfl
      | ok plan =>
          dsimp only
          cases plan.emit <;> rfl

end PaneLayout
