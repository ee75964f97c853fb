import PaneLayout.Proofs.Compile.Recorded
import PaneLayout.Proofs.Plan.Sized
import PaneLayout.Proofs.Ratio.Chain
import PaneLayout.Proofs.Ratio.Normalized
import PaneLayout.Proofs.Ratio.Percentage

/-!
# What a plan records

Every split step of a planned layout has a size, and its record has a saved
form, as has the record of the plan.  So emitting a plan only fails where a
number that is recorded has too many digits, or where a text has a surrogate.
-/

namespace PaneLayout

open Value

variable {numbers texts : Prop}

/-! ### Ratios -/

namespace Ratio

theorem HasShortCounts.normalize {ratio : Ratio}
    (short : ratio.HasShortCounts) : ratio.normalize.HasShortCounts where
  length := (length_withWeights ratio _).symm ▸ short.length
  cells := (fixedCells_withWeights ratio _).symm ▸ short.cells

/-- A part of a ratio has no greater counts. -/
theorem HasShortCounts.of_sublist {part whole : Ratio}
    (short : whole.HasShortCounts) (sublist : part.Sublist whole) :
    part.HasShortCounts where
  length := sublist.length_le.trans_lt short.length
  cells := (total_le_of_sublist (sublist.filterMap _)).trans_lt short.cells

theorem isRecord_entry {ratio : Ratio} {entry : RatioEntry}
    (short : numbers → ratio.HasShortCounts) (member : entry ∈ ratio) :
    IsRecord numbers texts entry.toValue := by
  cases entry with
  | weight value => exact isRecord_float value
  | cells count positive =>
      change IsRecord numbers texts
        (.record [("kind", .text "fixed-cells"), ("cells", .int count)])
      have keys : ∀ key ∈ ["kind", "cells"], hasSurrogate key = false := by
        decide +kernel
      refine isRecord_named keys ?_
      simp only [List.forall_mem_cons]
      refine ⟨isRecord_text fun _ => by decide +kernel,
        isRecord_int fun holds => ?_, List.forall_mem_nil _⟩
      have single := (short holds).of_sublist
        (List.singleton_sublist.mpr member)
      exact single.cells

/-- The sizing between the entry at an index and the entries after it. -/
theorem exists_dynamicSizing {ratio : Ratio} {index : Nat}
    (inside : index < ratio.length)
    (short : numbers → ratio.HasShortCounts) :
    ∃ sizing, ratio.dynamicSizing (index + 1 : Nat) = .ok sizing ∧
      IsRecord numbers texts sizing.toValue := by
  have parts : ratio.take index ++ ratio[index] :: ratio.drop (index + 1) =
      ratio := by
    rw [← List.drop_eq_getElem_cons inside, List.take_append_drop]
  have sized := dynamicSizing_append (ratio.take index) ratio[index]
    (ratio.drop (index + 1))
  rw [parts, List.length_take_of_le inside.le] at sized
  refine ⟨_, sized, ?_⟩
  change IsRecord numbers texts (.record [("mode", .text "dynamic-cells"),
    ("target", _), ("remaining_fixed_cells", _), ("remaining_weight", _),
    ("remaining_weight_pane_count", _)])
  have keys : ∀ key ∈ ["mode", "target", "remaining_fixed_cells",
      "remaining_weight", "remaining_weight_pane_count"],
      hasSurrogate key = false := by
    decide +kernel
  refine isRecord_named keys ?_
  have later (holds : numbers) :=
    (short holds).of_sublist (List.drop_sublist (index + 1) ratio)
  simp only [List.forall_mem_cons]
  refine ⟨isRecord_text fun _ => by decide +kernel,
    isRecord_entry short (List.getElem_mem inside),
    isRecord_int fun holds => (later holds).cells, isRecord_float _,
    isRecord_int fun holds => ?_, List.forall_mem_nil _⟩
  exact (List.length_filterMap_le _ _).trans_lt (later holds).length

end Ratio

namespace PlanNode

/-! ### Nodes -/

mutual

/-- There is an entry of the ratio for each child, ids have no surrogates, and
what is recorded can be written if the conditions hold. -/
def IsRecordable (numbers texts : Prop) : PlanNode → Prop
  | .terminal id leaf =>
      hasSurrogate id = false ∧ leaf.IsRecordable numbers texts
  | .split id _ ratio panes =>
      hasSurrogate id = false ∧ ratio.length = panes.length ∧
        (numbers → ratio.HasShortCounts) ∧
        IsRecordableList numbers texts panes

def IsRecordableList (numbers texts : Prop) : List PlanNode → Prop
  | [] => True
  | pane :: panes =>
      pane.IsRecordable numbers texts ∧ IsRecordableList numbers texts panes

end

theorem length_plannedList {id path : String} {index : Nat}
    {panes : List Layout} {nodes : List PlanNode}
    (planned : Layout.plannedList id path index panes = .ok nodes) :
    nodes.length = panes.length := by
  induction panes generalizing index nodes with
  | nil =>
      cases planned
      rfl
  | cons pane panes induction =>
      obtain ⟨node, later, -, laterOk, rfl⟩ :=
        Layout.exists_of_plannedList_cons planned
      exact congrArg (· + 1) (induction laterOk)

theorem IsRecordable.id_plain {node : PlanNode}
    (recordable : node.IsRecordable numbers texts) :
    hasSurrogate node.id = false := by
  cases node <;> exact recordable.1

theorem IsRecordableList.ids_plain {panes : List PlanNode}
    (recordable : IsRecordableList numbers texts panes) :
    ∀ id ∈ panes.map PlanNode.id, hasSurrogate id = false := by
  induction panes with
  | nil => exact List.forall_mem_nil _
  | cons pane panes induction =>
      exact List.forall_mem_cons.mpr
        ⟨recordable.1.id_plain, induction recordable.2⟩

theorem hasSurrogate_childPaneId {id : String} (plain : hasSurrogate id = false)
    (index : Nat) : hasSurrogate (childPaneId id index) = false := by
  have separator : hasSurrogate "." = false := by decide
  rw [Position.childPaneId_eq, hasSurrogate_append, hasSurrogate_append, plain,
    separator, hasSurrogate_nat]
  rfl

mutual

theorem isRecordable_planned : ∀ {id path : String} {layout : Layout}
    {node : PlanNode}, layout.IsRecordable numbers texts →
      hasSurrogate id = false → layout.planned id path = .ok node →
      node.IsRecordable numbers texts
  | _, _, .terminal _, _, leaf, plain, planned => by
      cases planned
      exact ⟨plain, leaf⟩
  | _, _, .split _ ratio _, _, ⟨same, short, children⟩, plain, planned => by
      obtain ⟨nodes, -, plannedPanes, rfl⟩ :=
        Layout.exists_of_planned_split planned
      refine ⟨plain, ?_, fun holds => (short holds).normalize,
        isRecordableList_planned children plain plannedPanes⟩
      rw [Ratio.normalize, Ratio.length_withWeights, same,
        length_plannedList plannedPanes]

theorem isRecordableList_planned : ∀ {id path : String} {index : Nat}
    {panes : List Layout} {nodes : List PlanNode},
    Layout.IsRecordableList numbers texts panes →
      hasSurrogate id = false →
      Layout.plannedList id path index panes = .ok nodes →
      IsRecordableList numbers texts nodes
  | _, _, _, [], _, _, _, planned => by
      cases planned
      exact trivial
  | _, _, index, _ :: _, _, ⟨first, rest⟩, plain, planned => by
      obtain ⟨node, nodes, plannedPane, plannedPanes, rfl⟩ :=
        Layout.exists_of_plannedList_cons planned
      exact ⟨isRecordable_planned first
          (hasSurrogate_childPaneId plain index) plannedPane,
        isRecordableList_planned rest plain plannedPanes⟩

end

theorem length_withFocusList (focusPaneId : String) (panes : List PlanNode) :
    (withFocusList focusPaneId panes).length = panes.length := by
  induction panes with
  | nil => rfl
  | cons pane panes induction => exact congrArg (· + 1) induction

mutual

theorem IsRecordable.withFocus (focusPaneId : String) :
    ∀ {node : PlanNode}, node.IsRecordable numbers texts →
      (node.withFocus focusPaneId).IsRecordable numbers texts
  | .terminal _ _, ⟨plain, labels, env, delay, options⟩ =>
      ⟨plain, labels, env, delay, options⟩
  | .split _ _ _ panes, ⟨plain, same, short, children⟩ =>
      ⟨plain, same.trans (length_withFocusList focusPaneId panes).symm, short,
        IsRecordableList.withFocus focusPaneId children⟩

theorem IsRecordableList.withFocus (focusPaneId : String) :
    ∀ {panes : List PlanNode}, IsRecordableList numbers texts panes →
      IsRecordableList numbers texts (withFocusList focusPaneId panes)
  | [], _ => trivial
  | _ :: _, ⟨first, rest⟩ =>
      ⟨first.withFocus focusPaneId,
        IsRecordableList.withFocus focusPaneId rest⟩

end

end PlanNode

theorem Terminal.IsRecordable.fields {leaf : Terminal}
    (recordable : leaf.IsRecordable numbers texts) :
    ∀ field ∈ leaf.fields, IsRecord numbers texts field.2 := by
  have label (holds : texts) :=
    List.forall_mem_cons.mp (recordable.labels holds)
  have optional (holds : texts) :=
    List.forall_mem_append.mp (label holds).2
  have firstTwo (holds : texts) :=
    List.forall_mem_append.mp (optional holds).1
  simp only [Terminal.fields, List.forall_mem_cons]
  refine ⟨isRecord_text fun _ => by decide +kernel,
    isRecord_text fun holds => (label holds).1,
    isRecord_ofText? fun holds text found =>
      (firstTwo holds).1 text (Option.mem_toList.mpr found),
    isRecord_ofText? fun holds text found =>
      (firstTwo holds).2 text (Option.mem_toList.mpr found), ?_,
    isRecord_bool _, isRecord_bool _, isRecord_bool _, ?_,
    isRecord_ofText? fun holds text found =>
      (optional holds).2 text (Option.mem_toList.mpr found), ?_,
    List.forall_mem_nil _⟩
  · cases hasEnv : leaf.env with
    | none => exact isRecord_null
    | some env =>
        have plain := recordable.env env hasEnv
        exact isRecord_record (List.forall_mem_map.mpr
          fun assignment member =>
            ⟨fun holds => (plain holds assignment member).1,
              isRecord_text fun holds => (plain holds assignment member).2⟩)
  · cases hasDelay : leaf.delay with
    | none => exact isRecord_null
    | some milliseconds =>
        exact isRecord_int fun _ => recordable.delay _ hasDelay
  · cases hasOptions : leaf.options with
    | none => exact isRecord_null
    | some fields => exact isRecord_record (recordable.options _ hasOptions)

namespace PlanNode

theorem hasSurrogate_orientation (orientation : Orientation) :
    hasSurrogate orientation.name = false := by
  cases orientation <;> decide +kernel

mutual

theorem IsRecordable.toValue : ∀ {node : PlanNode},
    node.IsRecordable numbers texts → IsRecord numbers texts node.toValue
  | .terminal id leaf, ⟨plain, recordable⟩ => by
      have keys : ∀ key ∈ Entries.keys (leaf.fields ++ [("id", .text id)]),
          hasSurrogate key = false := by
        change ∀ key ∈ ["kind", "name", "command", "cwd", "env", "focus",
          "ephemeral", "close_on_error", "delay", "title", "options", "id"], _
        decide +kernel
      exact isRecord_named keys (List.forall_mem_append.mpr
        ⟨recordable.fields,
          List.forall_mem_singleton.mpr (isRecord_text fun _ => plain)⟩)
  | .split _ orientation _ _, ⟨plain, _, short, children⟩ => by
      have keys : ∀ key ∈ ["kind", "id", "orientation", "ratio", "panes"],
          hasSurrogate key = false := by
        decide +kernel
      refine isRecord_named keys ?_
      simp only [List.forall_mem_cons]
      exact ⟨isRecord_text fun _ => by decide +kernel,
        isRecord_text fun _ => plain,
        isRecord_text fun _ => hasSurrogate_orientation orientation,
        isRecord_list (List.forall_mem_map.mpr fun entry member =>
          Ratio.isRecord_entry short member),
        isRecord_list (IsRecordableList.toValueList children),
        List.forall_mem_nil _⟩

theorem IsRecordableList.toValueList : ∀ {panes : List PlanNode},
    IsRecordableList numbers texts panes →
      ∀ value ∈ toValueList panes, IsRecord numbers texts value
  | [], _ => List.forall_mem_nil _
  | _ :: _, ⟨first, rest⟩ =>
      List.forall_mem_cons.mpr
        ⟨first.toValue, IsRecordableList.toValueList rest⟩

end

/-! ### Split steps -/

/-- What is recorded of the size of a step. -/
structure StepSize.IsRecordable (numbers texts : Prop) (size : StepSize) :
    Prop where
  arguments : ∀ word ∈ size.arguments, hasSurrogate word = false
  percentage : ∀ percentage, size.percentage = some percentage →
    IsRecord numbers texts (.int percentage)
  sizing : IsRecord numbers texts size.sizing.toValue

theorem isRecord_percentage {percentage : Int}
    (least : leastPercentage ≤ percentage)
    (greatest : percentage ≤ greatestPercentage) :
    IsRecord numbers texts (.int percentage) := by
  unfold leastPercentage at least
  unfold greatestPercentage at greatest
  have small : percentage.natAbs < 2 ^ 7 := by omega
  exact isRecord_int fun _ => short_of_lt_two_pow (by decide) small

theorem exists_stepSize {ratio : Ratio} (normalized : ratio.IsNormalized)
    (short : numbers → ratio.HasShortCounts) {index : Nat}
    (inside : index < ratio.length) :
    ∃ size, stepSize ratio (index + 1) = .ok size ∧
      size.IsRecordable numbers texts := by
  unfold stepSize
  split
  · obtain ⟨sizing, sized, isRecord⟩ :=
      Ratio.exists_dynamicSizing inside short
    rw [sized]
    have arguments : ∀ word ∈ ["-l", dynamicSizePlaceholder],
        hasSurrogate word = false := by
      decide +kernel
    exact ⟨_, rfl, ⟨arguments, nofun, isRecord⟩⟩
  · obtain ⟨percentage, computed⟩ :=
      splitPercentage_ok normalized.isShare index
    obtain ⟨least, greatest⟩ := splitPercentage_range computed
    have isRecord : IsRecord numbers texts (.int percentage) :=
      isRecord_percentage least greatest
    have keys : ∀ key ∈ ["mode", "percentage"],
        hasSurrogate key = false := by
      decide +kernel
    have option : hasSurrogate "-p" = false := by decide
    rw [computed]
    refine ⟨_, rfl, ?_, ?_, ?_⟩
    · simp only [List.forall_mem_cons]
      exact ⟨option, hasSurrogate_int percentage, List.forall_mem_nil _⟩
    · rintro same ⟨⟩
      exact isRecord
    · refine isRecord_named keys ?_
      simp only [List.forall_mem_cons]
      exact ⟨isRecord_text fun _ => by decide +kernel, isRecord,
        List.forall_mem_nil _⟩

theorem hasSurrogate_flag (orientation : Orientation) :
    hasSurrogate orientation.flag = false := by
  cases orientation <;> decide

/-- A step records its ids, and a size that can be recorded. -/
theorem isRecord_split {id target created : String} {size : StepSize}
    (idPlain : hasSurrogate id = false)
    (targetPlain : hasSurrogate target = false)
    (createdPlain : hasSurrogate created = false)
    (recordable : size.IsRecordable numbers texts) (orientation : Orientation)
    (index : Nat) :
    IsRecord numbers texts (Step.split {
      id := id ++ ":split:" ++ toString index
      summary := "split " ++ target ++ " (" ++ orientation.flag ++ ")"
      command :=
        ["split-window", orientation.flag, "-t", target] ++ size.arguments
      targetPaneId := some target
      createdPaneId := some created
      orientation := some orientation
      percentage := size.percentage
      sizing := some size.sizing }).toValue := by
  have keys : ∀ key ∈ ["kind", "id", "summary", "command", "target_pane_id",
      "created_pane_id", "orientation", "percentage", "sizing"],
      hasSurrogate key = false := by
    decide +kernel
  have marks : hasSurrogate ":split:" = false ∧ hasSurrogate "split " = false ∧
      hasSurrogate " (" = false ∧ hasSurrogate ")" = false := by
    decide +kernel
  have words : hasSurrogate "split-window" = false ∧
      hasSurrogate "-t" = false := by
    decide +kernel
  have flag := hasSurrogate_flag orientation
  refine isRecord_named keys ?_
  simp only [List.forall_mem_cons]
  refine ⟨isRecord_text fun _ => by decide +kernel,
    isRecord_text fun _ => ?_, isRecord_text fun _ => ?_,
    isRecord_list (List.forall_mem_map.mpr fun word member =>
      isRecord_text fun _ => ?_),
    isRecord_text fun _ => targetPlain, isRecord_text fun _ => createdPlain,
    isRecord_text fun _ => hasSurrogate_orientation orientation, ?_,
    recordable.sizing, List.forall_mem_nil _⟩
  · rw [hasSurrogate_append, hasSurrogate_append, idPlain, marks.1,
      hasSurrogate_nat]
    rfl
  · simp only [hasSurrogate_append, targetPlain, flag, marks, Bool.or_false]
  · rcases List.mem_append.mp member with fixed | argument
    · simp only [List.mem_cons, List.not_mem_nil, or_false] at fixed
      rcases fixed with rfl | rfl | rfl | rfl
      · exact words.1
      · exact flag
      · exact words.2
      · exact targetPlain
    · exact recordable.arguments word argument
  · cases hasPercentage : size.percentage with
    | none => exact isRecord_null
    | some percentage => exact recordable.percentage percentage hasPercentage

theorem exists_splitStep {id : String} (orientation : Orientation)
    {ratio : Ratio} (normalized : ratio.IsNormalized)
    (short : numbers → ratio.HasShortCounts) {index : Nat}
    (inside : index < ratio.length) (idPlain : hasSurrogate id = false)
    {target created : String} (targetPlain : hasSurrogate target = false)
    (createdPlain : hasSurrogate created = false) :
    ∃ step, splitStep id orientation ratio (index + 1) target created =
        .ok step ∧ IsRecord numbers texts step.toValue := by
  obtain ⟨size, sized, recordable⟩ := exists_stepSize normalized short inside
  unfold splitStep
  rw [sized]
  exact ⟨_, rfl, isRecord_split idPlain targetPlain createdPlain recordable
    orientation (index + 1)⟩

theorem exists_ownSteps {id : String} (orientation : Orientation)
    {ratio : Ratio} (normalized : ratio.IsNormalized)
    (short : numbers → ratio.HasShortCounts)
    (idPlain : hasSurrogate id = false) {index : Nat} {ids : List String}
    (inside : index + ids.length ≤ ratio.length)
    (arePlain : ∀ id ∈ ids, hasSurrogate id = false) :
    ∃ steps, ownSteps id orientation ratio (index + 1) ids = .ok steps ∧
      ∀ step ∈ steps, IsRecord numbers texts step.toValue := by
  induction ids generalizing index with
  | nil => exact ⟨[], rfl, List.forall_mem_nil _⟩
  | cons target ids induction =>
      cases ids with
      | nil => exact ⟨[], rfl, List.forall_mem_nil _⟩
      | cons created rest =>
          -- A step has the index of the child that it makes, and its size is
          -- that of the child before it.
          rw [List.length_cons] at inside
          have insideHere : index < ratio.length := by omega
          have insideLater :
              index + 1 + (created :: rest).length ≤ ratio.length := by omega
          obtain ⟨targetPlain, arePlain⟩ := List.forall_mem_cons.mp arePlain
          obtain ⟨step, made, isRecord⟩ := exists_splitStep orientation
            normalized short insideHere idPlain targetPlain
            (arePlain created List.mem_cons_self)
          obtain ⟨others, othersMade, areRecords⟩ :=
            induction insideLater arePlain
          refine ⟨step :: others, ?_,
            List.forall_mem_cons.mpr ⟨isRecord, areRecords⟩⟩
          rw [ownSteps, made, othersMade]
          rfl

mutual

theorem exists_splitSteps : ∀ {node : PlanNode}, node.IsSized →
    node.IsRecordable numbers texts →
    ∃ steps, node.splitSteps = .ok steps ∧
      ∀ step ∈ steps, IsRecord numbers texts step.toValue
  | .terminal _ _, _, _ => ⟨[], rfl, List.forall_mem_nil _⟩
  | .split id orientation ratio panes, ⟨normalized, sized⟩,
      ⟨plain, same, short, children⟩ => by
      have inside : 0 + (panes.map PlanNode.id).length ≤ ratio.length := by
        rw [Nat.zero_add, List.length_map, ← same]
      obtain ⟨own, ownMade, ownRecords⟩ := exists_ownSteps orientation
        normalized short plain inside children.ids_plain
      obtain ⟨later, laterMade, laterRecords⟩ :=
        exists_splitStepsList sized children
      refine ⟨own ++ later, ?_,
        List.forall_mem_append.mpr ⟨ownRecords, laterRecords⟩⟩
      rw [splitSteps, ownMade, laterMade]
      rfl

theorem exists_splitStepsList : ∀ {panes : List PlanNode},
    IsSizedList panes → IsRecordableList numbers texts panes →
    ∃ steps, splitStepsList panes = .ok steps ∧
      ∀ step ∈ steps, IsRecord numbers texts step.toValue
  | [], _, _ => ⟨[], rfl, List.forall_mem_nil _⟩
  | _ :: _, ⟨sized, sizedRest⟩, ⟨recordable, recordableRest⟩ => by
      obtain ⟨first, firstMade, firstRecords⟩ :=
        exists_splitSteps sized recordable
      obtain ⟨later, laterMade, laterRecords⟩ :=
        exists_splitStepsList sizedRest recordableRest
      refine ⟨first ++ later, ?_,
        List.forall_mem_append.mpr ⟨firstRecords, laterRecords⟩⟩
      rw [splitStepsList, firstMade, laterMade]
      rfl

end

end PlanNode

/-! ### Plans -/

theorem hasSurrogate_paneId (position : Position) :
    hasSurrogate position.paneId = false := by
  have descends {id : String} (plain : hasSurrogate id = false) :
      hasSurrogate (position.foldl
        (fun id (index : Nat) => childPaneId id index) id) = false := by
    induction position generalizing id with
    | nil => exact plain
    | cons index position induction =>
        exact induction (PlanNode.hasSurrogate_childPaneId plain index)
  exact descends (by decide)

/-- The name and the command of a preset come from texts of its document. -/
theorem Preset.labels_plain {source : String} {value : Value}
    {preset : Preset} (ok : ofValue source value = .ok preset)
    (encodable : value.Everywhere IsEncodable) :
    ∀ label ∈ Terminal.labels
      { name := preset.name, command := preset.command, focus := true },
      hasSurrogate label = false := by
  obtain ⟨entries, layout, rfl, -, rfl⟩ := compiled_ofValue ok
  refine List.forall_mem_cons.mpr ⟨?_, ?_⟩
  · change hasSurrogate (Compile.presetName entries) = false
    unfold Compile.presetName
    split
    · next name found =>
      split
      · decide +kernel
      · exact Compile.hasSurrogate_textField encodable.2 found
    · decide +kernel
  · intro label member
    simp only [Option.toList_none, List.append_nil, Option.mem_toList]
      at member
    exact Compile.hasSurrogate_textField encodable.2 member

theorem Preset.builtLayout_isRecordable {source : String} {value : Value}
    {preset : Preset} (ok : ofValue source value = .ok preset) :
    preset.builtLayout.IsRecordable (value.Everywhere Compile.InLimits)
      (value.Everywhere IsEncodable) := by
  obtain ⟨entries, rfl, layoutOk⟩ := layout_ofValue ok
  unfold builtLayout
  cases hasLayout : preset.layout with
  | none => exact ⟨Preset.labels_plain ok, nofun, nofun, nofun⟩
  | some layout =>
      rw [hasLayout] at layoutOk
      obtain ⟨value, found, compiles⟩ := Compile.compiles_of_layout layoutOk
      exact compiles.isRecordable
        (fun inLimits => Everywhere.of_lookup inLimits.2 found)
        fun encodable => Everywhere.of_lookup encodable.2 found

namespace Plan

theorem isRecordable_ofPreset {preset : Preset} {plan : Plan}
    (recordable : preset.builtLayout.IsRecordable numbers texts)
    (ok : ofPreset preset = .ok plan) :
    plan.root.IsRecordable numbers texts := by
  have root : hasSurrogate rootPaneId = false := by decide
  unfold Preset.builtLayout at recordable
  cases hasLayout : preset.layout with
  | none =>
      rw [ofPreset, hasLayout] at ok
      rw [hasLayout] at recordable
      cases ok
      exact ⟨root, recordable⟩
  | some layout =>
      rw [hasLayout] at recordable
      obtain ⟨layoutRoot, focusPaneId, planned, -, rfl⟩ :=
        exists_of_ofPreset hasLayout ok
      exact (PlanNode.isRecordable_planned recordable root planned).withFocus
        focusPaneId

variable {plan : Plan}

theorem isRecord_hashedValue
    (recordable : plan.root.IsRecordable numbers texts)
    (focus : hasSurrogate plan.focusPaneId = false) {steps : List Step}
    (records : ∀ step ∈ steps, IsRecord numbers texts step.toValue) :
    IsRecord numbers texts (plan.hashedValue steps) := by
  have keys : ∀ key ∈ ["focusPaneId", "root", "steps"],
      hasSurrogate key = false := by
    decide +kernel
  refine isRecord_named keys ?_
  simp only [List.forall_mem_cons]
  exact ⟨isRecord_text fun _ => focus, recordable.toValue,
    isRecord_list (List.forall_mem_map.mpr records), List.forall_mem_nil _⟩

/-- Taking a digest fails only where a number that is recorded has too many
digits, or where a text that is recorded has a surrogate. -/
theorem hash_faultsOnly {steps : List Step}
    (isRecord : IsRecord numbers texts (plan.hashedValue steps)) :
    FaultsOnly (Fault.IsDue numbers texts) (plan.hash steps) := by
  obtain ⟨json, saved, writable⟩ := saved_ok _ isRecord.isJson
  unfold hash
  rw [saved]
  refine (faultsOnly_ok json).bind fun _ isSaved => ?_
  cases isSaved
  refine FaultsOnly.bind (FaultsOnly.bind ?_ fun text _ => ?_)
    fun _ _ => faultsOnly_ok _
  · refine FailsUnless.isDue ((Json.render_failsUnless _ json).mono ?_)
    exact fun holds => writable (isRecord.short holds)
  · split
    · next surrogate =>
      rintro _ _ ⟨⟩ ⟨⟩
      refine .inr ⟨rfl, fun holds => ?_⟩
      have encodable :=
        encodable_saved isRecord.isJson (isRecord.encodable holds) saved
      rw [(Json.holdsSurrogate_eq_false_iff json).mpr encodable] at surrogate
      cases surrogate
    · exact faultsOnly_ok _

/-- What is left of a plan's own steps is to select the pane that has the
focus. -/
theorem isRecord_focusStep (focus : hasSurrogate plan.focusPaneId = false) :
    IsRecord numbers texts (Step.focus plan.focusStep).toValue := by
  have keys : ∀ key ∈ ["kind", "id", "summary", "command",
      "target_pane_id"], hasSurrogate key = false := by
    decide +kernel
  have marks : hasSurrogate ":focus" = false ∧
      hasSurrogate "select pane " = false ∧
      hasSurrogate "select-pane" = false ∧ hasSurrogate "-t" = false := by
    decide +kernel
  refine isRecord_named keys ?_
  simp only [List.forall_mem_cons]
  refine ⟨isRecord_text fun _ => by decide +kernel,
    isRecord_text fun _ => ?_, isRecord_text fun _ => ?_,
    isRecord_list (List.forall_mem_map.mpr fun word member =>
      isRecord_text fun _ => ?_),
    isRecord_text fun _ => focus, List.forall_mem_nil _⟩
  · simp only [focusStep, hasSurrogate_append, focus, marks, Bool.or_false]
  · simp only [focusStep, hasSurrogate_append, focus, marks, Bool.or_false]
  · simp only [focusStep, List.mem_cons, List.not_mem_nil, or_false] at member
    rcases member with rfl | rfl | rfl
    · exact marks.2.2.1
    · exact marks.2.2.2
    · exact focus

/-- Emitting a plan fails only where a number that is recorded has too many
digits, or where a text that is recorded has a surrogate. -/
theorem emit_faultsOnly (sized : plan.root.IsSized)
    (recordable : plan.root.IsRecordable numbers texts)
    (focus : hasSurrogate plan.focusPaneId = false)
    (initial : ∃ id, plan.root.initialPaneId = .ok id) :
    FaultsOnly (Fault.IsDue numbers texts) plan.emit := by
  obtain ⟨splits, made, records⟩ := PlanNode.exists_splitSteps sized recordable
  obtain ⟨id, isInitial⟩ := initial
  unfold emit
  rw [made, isInitial]
  refine (faultsOnly_ok splits).bind fun _ isSplit => ?_
  refine (faultsOnly_ok id).bind fun _ _ => ?_
  cases isSplit
  refine FaultsOnly.bind (hash_faultsOnly
    (isRecord_hashedValue recordable focus ?_)) fun _ _ => faultsOnly_ok _
  exact List.forall_mem_append.mpr
    ⟨records, List.forall_mem_singleton.mpr (isRecord_focusStep focus)⟩

theorem emit_faultsOnly_ofPreset {source : String} {value : Value}
    {preset : Preset} (compiled : Preset.ofValue source value = .ok preset)
    (planned : ofPreset preset = .ok plan) :
    FaultsOnly (Fault.IsDue (value.Everywhere Compile.InLimits)
      (value.Everywhere IsEncodable)) plan.emit := by
  have isCompiled := Preset.builtLayout_isCompiled compiled
  obtain ⟨plans, focused⟩ := plans_ofPreset isCompiled.hasChildren planned
  obtain ⟨leaf, _, isFocus⟩ := List.mem_map.mp focused
  have initial := plans.initialPaneId_eq isCompiled.hasChildren
  exact emit_faultsOnly (isSized_ofPreset isCompiled planned)
    (isRecordable_ofPreset (Preset.builtLayout_isRecordable compiled) planned)
    (isFocus ▸ hasSurrogate_paneId leaf.1) ⟨_, initial⟩

end Plan

end PaneLayout
