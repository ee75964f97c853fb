import PaneLayout.Proofs.Diagnosis.Report
import PaneLayout.Proofs.Plan.Focused
import PaneLayout.Proofs.Plan.Prepared

/-!
# Severe findings and failing presets

A diagnosis counts all mappings of a layout that ask for the focus, while a plan
only looks at the terminals.  The two differ by the splits that ask for it.  So
a report is severe if the preset cannot be prepared, and also if splits ask for
the focus besides a terminal or another split.
-/

namespace PaneLayout

open Value

namespace Diagnosis

/-! ### The mappings of a layout -/

mutual

/-- The mappings of a node and of what its lists of panes hold, in pre-order. -/
def mappings : Value → List (List (Value × Value))
  | .list items => mappingsList items
  | .mapping entries => entries :: mappingsPanes entries
  | _ => []

def mappingsList : List Value → List (List (Value × Value))
  | [] => []
  | item :: items => mappings item ++ mappingsList items

/-- The mappings in the list under the first key `panes`. -/
def mappingsPanes : List (Value × Value) → List (List (Value × Value))
  | [] => []
  | (key, value) :: rest =>
      if key.isText "panes" then
        mappingsOfList value
      else
        mappingsPanes rest

/-- The mappings in a value that must be a list. -/
def mappingsOfList : Value → List (List (Value × Value))
  | .list items => mappingsList items
  | _ => []

end

/-- A mapping asks for the focus. -/
def asksFocus (entries : List (Value × Value)) : Bool :=
  Compile.flagField entries "focus"

/-- How many splits of a layout ask for the focus. -/
def splitRequests (layout : Value) : Nat :=
  (mappings layout).countP fun entries =>
    hasKey entries "panes" && asksFocus entries

mutual

theorem focusCount_eq : ∀ value,
    focusCount value = (mappings value).countP asksFocus
  | .list items => focusCountList_eq items
  | .mapping entries => by
      rw [focusCount, mappings, List.countP_cons, focusCountPanes_eq entries,
        Nat.add_comm, asksFocus]
  | .null => rfl
  | .bool _ => rfl
  | .int _ => rfl
  | .float _ => rfl
  | .text _ => rfl
  | .bytes _ => rfl
  | .date _ => rfl
  | .timestamp _ => rfl
  | .tuple _ => rfl
  | .set _ => rfl

theorem focusCountList_eq : ∀ items,
    focusCountList items = (mappingsList items).countP asksFocus
  | [] => rfl
  | item :: items => by
      rw [focusCountList, mappingsList, List.countP_append,
        focusCount_eq item, focusCountList_eq items]

theorem focusCountPanes_eq : ∀ entries,
    focusCountPanes entries = (mappingsPanes entries).countP asksFocus
  | [] => rfl
  | (key, value) :: rest => by
      rw [focusCountPanes, mappingsPanes]
      split
      · exact focusCountOfList_eq value
      · exact focusCountPanes_eq rest

theorem focusCountOfList_eq : ∀ value,
    focusCountOfList value = (mappingsOfList value).countP asksFocus
  | .list items => focusCountList_eq items
  | .mapping _ => rfl
  | .null => rfl
  | .bool _ => rfl
  | .int _ => rfl
  | .float _ => rfl
  | .text _ => rfl
  | .bytes _ => rfl
  | .date _ => rfl
  | .timestamp _ => rfl
  | .tuple _ => rfl
  | .set _ => rfl

end

theorem mappingsPanes_eq (entries : List (Value × Value)) :
    mappingsPanes entries =
      ((lookup entries "panes").map mappingsOfList).getD [] := by
  induction entries with
  | nil => rfl
  | cons first rest induction =>
      obtain ⟨key, value⟩ := first
      rw [mappingsPanes, lookup, List.find?_cons]
      split
      · next here => rw [here]; rfl
      · next elsewhere =>
        rw [Bool.eq_false_of_not_eq_true elsewhere, induction]
        rfl

end Diagnosis

/-! ### Mappings and terminals -/

namespace Compile

open Diagnosis

/-- The mapping has no list of panes. -/
def isLeaf (entries : List (Value × Value)) : Bool :=
  !hasKey entries "panes"

theorem focus_terminal {entries : List (Value × Value)} {leaf : Terminal}
    (ok : terminal entries = .ok leaf) : leaf.focus = asksFocus entries := by
  obtain ⟨env, _, ok⟩ := exists_of_bind_eq_ok ok
  obtain ⟨milliseconds, _, ok⟩ := exists_of_bind_eq_ok ok
  obtain ⟨options, _, made⟩ := exists_of_bind_eq_ok ok
  cases made
  rfl

mutual

/-- The terminals of a layout stand for the leaves of its node in order. -/
theorem Compiles.terminals_focus : ∀ {path : String} {value : Value}
    {layout : Layout}, Compiles path value layout →
    layout.terminals.map Terminal.focus =
      ((mappings value).filter isLeaf).map asksFocus
  | _, .mapping entries, _, .split _ _ found _ children => by
      have noLeaf : ¬ isLeaf entries = true := by
        simp [isLeaf, hasKey, found]
      rw [mappings, mappingsPanes_eq, found, List.filter_cons_of_neg noLeaf]
      exact children.terminals_focus
  | _, .mapping entries, _, .terminal isTerminal leafOk => by
      have noPanes := (nodeKind_eq_terminal_iff.mp isTerminal).1
      have isLeaf : isLeaf entries = true := by
        simp [isLeaf, hasKey, noPanes]
      rw [mappings, mappingsPanes_eq, noPanes, List.filter_cons_of_pos isLeaf]
      exact congrArg (fun focus => [focus]) (focus_terminal leafOk)

theorem CompilesAll.terminals_focus : ∀ {path : String} {index : Nat}
    {items : List Value} {panes : List Layout},
    CompilesAll path index items panes →
    (Layout.terminalsList panes).map Terminal.focus =
      ((mappingsList items).filter isLeaf).map asksFocus
  | _, _, _, _, .nil => rfl
  | _, _, _, _, .cons first rest => by
      rw [Layout.terminalsList, mappingsList, List.map_append,
        List.filter_append, List.map_append, first.terminals_focus,
        rest.terminals_focus]

end

/-- What is counted in a node are the terminals and the splits that ask for the
focus. -/
theorem Compiles.focusCount_eq {path : String} {value : Value}
    {layout : Layout} (compiles : Compiles path value layout) :
    focusCount value = splitRequests value + layout.focusRequests := by
  have leaves : layout.focusRequests =
      (mappings value).countP fun entries =>
        asksFocus entries && isLeaf entries := by
    rw [Layout.focusRequests, ← List.countP_filter, ← Function.id_comp
      Terminal.focus, ← List.countP_map, compiles.terminals_focus,
      List.countP_map]
    rfl
  rw [Diagnosis.focusCount_eq, splitRequests, leaves]
  induction mappings value with
  | nil => rfl
  | cons entries rest induction =>
      simp only [List.countP_cons, induction, isLeaf]
      cases hasKey entries "panes" <;> cases asksFocus entries <;> simp
        <;> omega

end Compile

/-! ### Presets -/

/-- How many terminals of a preset ask for the focus. -/
def Preset.focusRequests (preset : Preset) : Nat :=
  (preset.layout.map Layout.focusRequests).getD 0

/-- In a preset that can be prepared, at most one terminal asks for the
focus. -/
theorem Prepared.focusRequests_le {source : String} {value : Value}
    {prepared : Prepared} (ok : ofValue source value = .ok prepared) :
    prepared.preset.focusRequests ≤ 1 := by
  obtain ⟨_, planned, _⟩ := stages_ofValue ok
  unfold Preset.focusRequests
  cases hasLayout : prepared.preset.layout with
  | none => exact Nat.zero_le 1
  | some layout => exact Plan.focusRequests_le hasLayout planned

namespace Diagnosis

/-- How many splits of a preset's layout ask for the focus. -/
def presetSplitRequests : Value → Nat
  | .mapping entries => ((layout? entries).map splitRequests).getD 0
  | _ => 0

/-- How many mappings of a preset's layout ask for the focus. -/
def presetFocusCount (entries : List (Value × Value)) : Nat :=
  ((layout? entries).map focusCount).getD 0

/-- What a diagnosis says about several focused panes. -/
def focusFinding : Finding where
  path := "preset.layout"
  severity := .high
  description := "More than one pane sets focus: true"

theorem focusAdvice_eq (entries : List (Value × Value)) :
    focusAdvice entries =
      if 1 < presetFocusCount entries then
        [⟨focusFinding, "Keep focus: true on a single terminal"⟩]
      else
        [] := by
  unfold focusAdvice presetFocusCount
  cases layout? entries <;> rfl

/-- The layout that is diagnosed is the one that is compiled. -/
theorem layout?_of_compiled {entries : List (Value × Value)}
    {result : Option Layout} (ok : Compile.layout entries = .ok result) :
    layout? entries = none ∧ result = none ∨
      ∃ value tree, layout? entries = some value ∧ result = some tree ∧
        Compile.Compiles Compile.layoutPath value tree := by
  cases result with
  | none =>
      refine .inl ⟨?_, rfl⟩
      unfold Compile.layout at ok
      split at ok
      · next absent => rw [layout?, absent]
      · next null => rw [layout?, null]
      · next value _ _ =>
        cases node : Compile.node Compile.layoutPath value with
        | ok tree =>
            rw [node] at ok
            cases ok
        | error error =>
            rw [node] at ok
            cases ok
  | some tree =>
      obtain ⟨value, found, compiles⟩ := Compile.compiles_of_layout ok
      refine .inr ⟨value, tree, ?_, rfl, compiles⟩
      rw [layout?, found]
      cases compiles <;> rfl

theorem presetFocusCount_eq {source : String} {preset : Preset}
    {entries : List (Value × Value)}
    (ok : Preset.ofValue source (.mapping entries) = .ok preset) :
    presetFocusCount entries =
      presetSplitRequests (.mapping entries) + preset.focusRequests := by
  obtain ⟨_, same, layoutOk⟩ := Preset.layout_ofValue ok
  cases same
  unfold presetFocusCount presetSplitRequests Preset.focusRequests
  dsimp only
  rcases layout?_of_compiled layoutOk with
    ⟨absent, none⟩ | ⟨value, tree, found, some, compiles⟩
  · rw [absent, none]
    rfl
  · rw [found, some]
    exact compiles.focusCount_eq

end Diagnosis

/-! ### Severe reports -/

/-- Something severe was found. -/
def Report.IsSevere (report : Report) : Prop :=
  ∃ finding ∈ report.findings, finding.severity = .high

namespace Diagnosis

/-- A report is severe if the advice about the preset is; issues that are known
beforehand do not matter. -/
theorem isSevere_report {advices : List Advice} (issues : List String) :
    (addAll {} (advices ++ issueAdvice 0 issues)).report.IsSevere ↔
      ∃ item ∈ advices, item.finding.severity = .high := by
  constructor
  · rintro ⟨finding, member, high⟩
    obtain ⟨item, isItem, rfl⟩ := mem_findings.mp member
    rcases List.mem_append.mp isItem with ofPreset | ofIssue
    · exact ⟨item, ofPreset, high⟩
    · rw [severity_issueAdvice ofIssue] at high
      cases high
  · rintro ⟨item, member, high⟩
    exact ⟨item.finding,
      mem_findings.mpr ⟨item, List.mem_append_left _ member, rfl⟩, high⟩

/-- What is wrong with the shape of a layout is not severe. -/
theorem severity_shapeAdvice {entries : List (Value × Value)} {item : Advice}
    (member : item ∈ shapeAdvice entries) : item.finding.severity = .low := by
  unfold shapeAdvice at member
  split at member
  · rw [List.mem_singleton.mp member]
    rfl
  · split at member
    · cases member
    · rw [List.mem_singleton.mp member]
      rfl

theorem shapeAdvice_any (entries : List (Value × Value)) :
    ((shapeAdvice entries).any fun item => item.finding.severity == .high) =
      false := by
  rw [List.any_eq_false]
  intro item member
  rw [severity_shapeAdvice member]
  decide

/-- Several focused panes keep a preset from being prepared. -/
theorem presetAdvice_of_several {entries : List (Value × Value)}
    (several : 1 < presetFocusCount entries) :
    presetAdvice (.mapping entries) =
      .ok (⟨focusFinding, "Keep focus: true on a single terminal"⟩ ::
        shapeAdvice entries) := by
  unfold presetAdvice
  dsimp only
  rw [focusAdvice_eq, if_pos several]
  rfl

/-- Several focused panes are found whatever else is wrong. -/
theorem focusFinding_mem {entries : List (Value × Value)}
    (several : 1 < presetFocusCount entries) (issues : List String) :
    ∃ report, ofValue (.mapping entries) issues = .ok report ∧
      focusFinding ∈ report.findings := by
  refine ⟨_, by rw [ofValue, presetAdvice_of_several several]; rfl, ?_⟩
  exact mem_findings.mpr ⟨_, List.mem_append_left _ List.mem_cons_self, rfl⟩

theorem presetAdvice_of_few {entries : List (Value × Value)}
    {prepared : List Advice} (few : ¬ 1 < presetFocusCount entries)
    (ok : preparationAdvice (.mapping entries) = .ok prepared) :
    presetAdvice (.mapping entries) =
      .ok (shapeAdvice entries ++ prepared) := by
  unfold presetAdvice
  dsimp only
  rw [focusAdvice_eq, if_neg few, List.nil_append, shapeAdvice_any, ok]
  rfl

theorem preparationAdvice_of_ok {source : String} {preset : Value}
    {prepared : Prepared} (ok : Prepared.ofValue source preset = .ok prepared) :
    preparationAdvice preset = .ok [] := by
  rw [preparationAdvice, Prepared.ofValue_relabeled source, ok]

theorem preparationAdvice_of_failure {source : String} {preset : Value}
    {failure : Failure}
    (failed : Prepared.ofValue source preset = .error (.failure failure)) :
    ∃ item, preparationAdvice preset = .ok [item] ∧
      item.finding.severity = .high := by
  rw [preparationAdvice, Prepared.ofValue_relabeled source, failed]
  exact ⟨_, rfl, rfl⟩

/-- What is severe in a mapping: too many mappings ask for the focus, or it
cannot be prepared. -/
theorem presetAdvice_mapping (source : String)
    {entries : List (Value × Value)}
    (noFault : ∀ cause,
      Prepared.ofValue source (.mapping entries) ≠ .error (.fault cause)) :
    ∃ advices, presetAdvice (.mapping entries) = .ok advices ∧
      ((∃ item ∈ advices, item.finding.severity = .high) ↔
        1 < presetFocusCount entries ∨
          ∃ failure, Prepared.ofValue source (.mapping entries) =
            .error (.failure failure)) := by
  by_cases several : 1 < presetFocusCount entries
  · exact ⟨_, presetAdvice_of_several several,
      iff_of_true ⟨_, List.mem_cons_self, rfl⟩ (.inl several)⟩
  · have mild : ¬ ∃ item ∈ shapeAdvice entries,
        item.finding.severity = .high := by
      rintro ⟨item, member, high⟩
      rw [severity_shapeAdvice member] at high
      cases high
    cases result : Prepared.ofValue source (.mapping entries) with
    | ok prepared =>
        refine ⟨_, presetAdvice_of_few several (preparationAdvice_of_ok result),
          ?_⟩
        rw [List.append_nil]
        exact iff_of_false mild fun
          | .inl known => several known
          | .inr ⟨_, failed⟩ => nomatch failed
    | error problem =>
        cases problem with
        | fault cause => exact absurd result (noFault cause)
        | failure failure =>
            obtain ⟨item, advised, high⟩ := preparationAdvice_of_failure result
            exact ⟨_, presetAdvice_of_few several advised, iff_of_true
              ⟨item, List.mem_append_right _ List.mem_cons_self, high⟩
              (.inr ⟨failure, rfl⟩)⟩

/-- A preset that is prepared, or whose failure is explained, is severe exactly
if it fails or too many mappings of its layout ask for the focus. -/
theorem exists_report {source : String} {preset : Value}
    (noFault : ∀ cause, Prepared.ofValue source preset ≠ .error (.fault cause))
    (issues : List String) :
    ∃ report, ofValue preset issues = .ok report ∧
      (report.IsSevere ↔
        (∃ failure,
          Prepared.ofValue source preset = .error (.failure failure)) ∨
        ∃ prepared, Prepared.ofValue source preset = .ok prepared ∧
          1 < presetSplitRequests preset + prepared.preset.focusRequests) := by
  cases preset with
  | mapping entries =>
      obtain ⟨advices, advised, high⟩ := presetAdvice_mapping source noFault
      refine ⟨_, by rw [ofValue, advised]; rfl, ?_⟩
      rw [isSevere_report, high]
      cases result : Prepared.ofValue source (.mapping entries) with
      | error problem =>
          cases problem with
          | fault cause => exact absurd result (noFault cause)
          | failure failure =>
              exact iff_of_true (.inr ⟨failure, rfl⟩) (.inl ⟨failure, rfl⟩)
      | ok prepared =>
          rw [presetFocusCount_eq (Prepared.stages_ofValue result).1]
          constructor
          · rintro (several | ⟨_, failed⟩)
            · exact .inr ⟨prepared, rfl, several⟩
            · cases failed
          · rintro (⟨_, failed⟩ | ⟨_, same, several⟩)
            · cases failed
            · cases same
              exact .inl several
  | _ =>
      exact ⟨_, rfl, iff_of_true
        ((isSevere_report issues).mpr ⟨_, List.mem_cons_self, rfl⟩)
        (.inl ⟨_, rfl⟩)⟩

/-- If a preset is prepared or its failure is explained, there is a report on
it.  The report is severe exactly if the preset fails, or if splits and
terminals of its layout ask for the focus more than once.  Without a split that
does so, it is severe exactly if the preset fails. -/
theorem report_severe_iff {source : String} {preset : Value}
    (noFault : ∀ cause, Prepared.ofValue source preset ≠ .error (.fault cause))
    (issues : List String) :
    let fails :=
      ∃ failure, Prepared.ofValue source preset = .error (.failure failure)
    ∃ report, ofValue preset issues = .ok report ∧
      (report.IsSevere ↔ fails ∨
        ∃ prepared, Prepared.ofValue source preset = .ok prepared ∧
          1 < presetSplitRequests preset + prepared.preset.focusRequests) ∧
      (presetSplitRequests preset = 0 → (report.IsSevere ↔ fails)) ∧
      (focusFinding ∈ report.findings →
        fails ∨ 0 < presetSplitRequests preset) := by
  intro fails
  obtain ⟨report, reported, severe⟩ := exists_report noFault issues
  have bySplits : report.IsSevere → fails ∨ 0 < presetSplitRequests preset := by
    intro isSevere
    rcases severe.mp isSevere with failed | ⟨prepared, ok, several⟩
    · exact .inl failed
    · have atMostOne := Prepared.focusRequests_le ok
      exact .inr (by omega)
  refine ⟨report, reported, severe, fun none => ?_, fun found =>
    bySplits ⟨focusFinding, found, rfl⟩⟩
  refine ⟨fun isSevere => ?_, fun failed => severe.mpr (.inl failed)⟩
  rcases bySplits isSevere with failed | some
  · exact failed
  · omega

/-- A split that asks for the focus together with one of its terminals. -/
def focusedSplitEntries : List (Value × Value) :=
  [(.text "layout", .mapping [
    (.text "type", .text "horizontal"),
    (.text "ratio", .list [.int 1, .int 1]),
    (.text "focus", .bool true),
    (.text "panes", .list [
      .mapping [(.text "name", .text "a"), (.text "focus", .bool true)],
      .mapping [(.text "name", .text "b")]])])]

def focusedSplit : Value := .mapping focusedSplitEntries

theorem exists_prepared_focusedSplit :
    ∃ prepared, Prepared.ofValue "local" focusedSplit = .ok prepared := by
  have isOk : (Prepared.ofValue "local" focusedSplit).isOk = true := by
    decide +kernel
  cases result : Prepared.ofValue "local" focusedSplit with
  | ok prepared => exact ⟨prepared, rfl⟩
  | error problem =>
      rw [result] at isOk
      cases isOk

theorem report_focusedSplit :
    ∃ report, ofValue focusedSplit [] = .ok report ∧
      (focusFinding ∈ report.findings →
        (∃ failure,
          Prepared.ofValue "local" focusedSplit = .error (.failure failure)) ∨
        0 < presetSplitRequests focusedSplit) := by
  obtain ⟨prepared, ok⟩ := exists_prepared_focusedSplit
  have noFault : ∀ cause,
      Prepared.ofValue "local" focusedSplit ≠ .error (.fault cause) := by
    rw [ok]
    exact nofun
  obtain ⟨report, reported, _, _, found⟩ := report_severe_iff noFault []
  exact ⟨report, reported, found⟩

/-- A preset that can be applied may have a severe report, which says that
several panes ask for the focus. -/
theorem severe_report_of_prepared :
    (∃ prepared, Prepared.ofValue "local" focusedSplit = .ok prepared) ∧
      ∃ report, ofValue focusedSplit [] = .ok report ∧
        report.IsSevere ∧ focusFinding ∈ report.findings := by
  have several : 1 < presetFocusCount focusedSplitEntries := by decide
  obtain ⟨report, reported, found⟩ := focusFinding_mem several []
  exact ⟨exists_prepared_focusedSplit, report, reported,
    ⟨focusFinding, found, rfl⟩, found⟩

end Diagnosis

end PaneLayout
