import PaneLayout.Proofs.Plan.Sequence
import PaneLayout.Proofs.Plan.Terminals

/-!
# Layouts without a plan

A layout has no plan if one of its splits has nothing but numbers of cells in
its ratio, if several terminals ask for the focus, or if there is no terminal at
all.  The first of these reasons that holds is reported: the ratios are looked
at in pre-order while the nodes are planned, and the terminals only after that.
A layout that was compiled has a terminal.
-/

namespace PaneLayout

/-- The place in a document of the node at a position. -/
def Position.layoutPath (position : Position) : String :=
  position.foldl
    (fun path (index : Nat) => path ++ ".panes[" ++ toString index ++ "]")
    "preset.layout"

theorem Position.layoutPath_concat (position : Position) (index : Nat) :
    layoutPath (position ++ [index]) =
      position.layoutPath ++ ".panes[" ++ toString index ++ "]" := by
  simp [layoutPath]

/-- There are entries, and all of them are numbers of cells. -/
def Ratio.IsFixedOnly (ratio : Ratio) : Prop :=
  ratio ≠ [] ∧ ∀ entry ∈ ratio, ∃ count positive, entry = .cells count positive

namespace Layout

theorem lacksWeight_iff {ratio : Ratio} :
    lacksWeight ratio = true ↔ ratio.IsFixedOnly := by
  have fixed : ∀ entry : RatioEntry, entry.cells?.isSome = true ↔
      ∃ count positive, entry = .cells count positive := by
    intro entry
    cases entry with
    | weight value => simp [RatioEntry.cells?]
    | cells count positive =>
        simpa [RatioEntry.cells?] using positive
  simp [lacksWeight, Ratio.IsFixedOnly, fixed]

mutual

/-- The splits in pre-order, with their positions and ratios. -/
def splits (position : Position) : Layout → List (Position × Ratio)
  | .terminal _ => []
  | .split _ ratio panes => (position, ratio) :: splitsList position 0 panes

def splitsList (position : Position) (index : Nat) :
    List Layout → List (Position × Ratio)
  | [] => []
  | pane :: panes =>
      pane.splits (position ++ [index]) ++
        splitsList position (index + 1) panes

end

/-- The first of some splits whose ratio consists of numbers of cells. -/
def IsFirstFixed (splits : List (Position × Ratio))
    (first : Position × Ratio) : Prop :=
  ∃ before after, splits = before ++ first :: after ∧ first.2.IsFixedOnly ∧
    ∀ other ∈ before, ¬ other.2.IsFixedOnly

theorem find?_lacking_iff {splits : List (Position × Ratio)}
    {first : Position × Ratio} :
    splits.find? (fun other => lacksWeight other.2) = some first ↔
      IsFirstFixed splits first := by
  simp only [List.find?_eq_some_iff_append, Bool.not_eq_true',
    ← Bool.not_eq_true, lacksWeight_iff, IsFirstFixed]
  constructor
  · rintro ⟨isFixed, before, after, parts, noneBefore⟩
    exact ⟨before, after, parts, isFixed, noneBefore⟩
  · rintro ⟨before, after, parts, isFixed, noneBefore⟩
    exact ⟨isFixed, before, after, parts, noneBefore⟩

theorem IsFirstFixed.eq {splits : List (Position × Ratio)}
    {first other : Position × Ratio} (isFirst : IsFirstFixed splits first)
    (isOther : IsFirstFixed splits other) : first = other :=
  Option.some.inj ((find?_lacking_iff.mpr isFirst).symm.trans
    (find?_lacking_iff.mpr isOther))

theorem IsFirstFixed.exists_fixed {splits : List (Position × Ratio)}
    {first : Position × Ratio} (isFirst : IsFirstFixed splits first) :
    ∃ split ∈ splits, split.2.IsFixedOnly := by
  obtain ⟨before, after, rfl, isFixed, _⟩ := isFirst
  exact ⟨first, List.mem_append_right before List.mem_cons_self, isFixed⟩

theorem IsFirstFixed.not_weighted {splits : List (Position × Ratio)}
    {first : Position × Ratio} (isFirst : IsFirstFixed splits first) :
    ¬ ∀ split ∈ splits, ¬ split.2.IsFixedOnly := by
  obtain ⟨split, member, isFixed⟩ := isFirst.exists_fixed
  exact fun weighted => weighted split member isFixed

theorem exists_isFirstFixed_iff {splits : List (Position × Ratio)} :
    (∃ first, IsFirstFixed splits first) ↔
      ∃ split ∈ splits, split.2.IsFixedOnly := by
  constructor
  · rintro ⟨first, isFirst⟩
    exact isFirst.exists_fixed
  · rintro ⟨split, member, isFixed⟩
    have isSome : (splits.find? fun other => lacksWeight other.2).isSome :=
      List.find?_isSome.mpr ⟨split, member, lacksWeight_iff.mpr isFixed⟩
    obtain ⟨first, found⟩ := Option.isSome_iff_exists.mp isSome
    exact ⟨first, find?_lacking_iff.mp found⟩

/-! ### Ratios -/

/-- Planning ends with the first split that lacks a weight, if there is one. -/
def EndsAtFirst {α : Type} (splits : List (Position × Ratio))
    (result : Except PlanError α) : Prop :=
  match splits.find? fun other => lacksWeight other.2 with
  | some lacking => result = .error (.weightMissing
      (lacking.1.layoutPath ++ ".ratio") lacking.2.fixedCells)
  | none => ∃ value, result = .ok value

section EndsAtFirst

variable {α β : Type} {first later : List (Position × Ratio)}

theorem endsAtFirst_ok (value : α) : EndsAtFirst [] (.ok value) :=
  ⟨value, rfl⟩

theorem EndsAtFirst.bind {result : Except PlanError α}
    {next : α → Except PlanError β} (ends : EndsAtFirst first result)
    (nextEnds : ∀ value, result = .ok value → EndsAtFirst later (next value)) :
    EndsAtFirst (first ++ later) (result >>= next) := by
  unfold EndsAtFirst at ends ⊢
  rw [List.find?_append]
  cases found : first.find? fun other => lacksWeight other.2 with
  | some lacking =>
      rw [found] at ends
      dsimp only at ends
      rw [ends]
      rfl
  | none =>
      rw [found] at ends
      obtain ⟨value, isOk⟩ := ends
      rw [isOk]
      exact nextEnds value isOk

theorem endsAtFirst_here {position : Position} {ratio : Ratio}
    (lacks : lacksWeight ratio = true) :
    EndsAtFirst ((position, ratio) :: later) (.error (.weightMissing
      (position.layoutPath ++ ".ratio") ratio.fixedCells) :
        Except PlanError α) := by
  simp [EndsAtFirst, lacks]

theorem EndsAtFirst.after {position : Position} {ratio : Ratio}
    {result : Except PlanError α} (ends : EndsAtFirst later result)
    (weighted : lacksWeight ratio = false) :
    EndsAtFirst ((position, ratio) :: later) result := by
  simpa [EndsAtFirst, weighted] using ends

end EndsAtFirst

mutual

theorem planned_endsAtFirst : ∀ (position : Position) (layout : Layout),
    EndsAtFirst (layout.splits position)
      (layout.planned position.paneId position.layoutPath)
  | _, .terminal _ => endsAtFirst_ok _
  | position, .split orientation ratio panes => by
      unfold planned splits
      cases lacks : lacksWeight ratio with
      | true => exact endsAtFirst_here lacks
      | false =>
          refine EndsAtFirst.after ?_ lacks
          rw [← List.append_nil (splitsList position 0 panes)]
          exact (plannedList_endsAtFirst position 0 panes).bind
            fun _ _ => endsAtFirst_ok _

theorem plannedList_endsAtFirst : ∀ (position : Position) (index : Nat)
    (panes : List Layout),
    EndsAtFirst (splitsList position index panes)
      (plannedList position.paneId position.layoutPath index panes)
  | _, _, [] => endsAtFirst_ok _
  | position, index, pane :: panes => by
      unfold plannedList splitsList
      rw [← Position.paneId_concat, ← Position.layoutPath_concat]
      refine (planned_endsAtFirst (position ++ [index]) pane).bind
        fun _ _ => ?_
      rw [← List.append_nil (splitsList position (index + 1) panes)]
      exact (plannedList_endsAtFirst position (index + 1) panes).bind
        fun _ _ => endsAtFirst_ok _

end

/-! ### Terminals -/

/-- The ids of the leaves that ask for the focus, in depth-first order. -/
def focusIds (layout : Layout) : List String :=
  ((layout.leaves []).filter fun leaf => leaf.2.focus).map
    fun leaf => leaf.1.paneId

theorem terminals_ne_nil {layout : Layout} (children : layout.HasChildren) :
    layout.terminals ≠ [] := by
  have some := layout.length_divisions [] children
  rintro isEmpty
  rw [isEmpty] at some
  cases some

end Layout

namespace Plan

section Focus

variable {root : PlanNode}

theorem focusOf_of_several (several : 2 ≤ root.focusIds.length) :
    focusOf root = .error (.focusConflict root.focusIds) := by
  unfold focusOf
  rcases asking : root.focusIds with _ | ⟨first, _ | ⟨second, more⟩⟩
  · rw [asking] at several
    cases several
  · rw [asking] at several
    cases Nat.le_of_succ_le_succ several
  · rfl

theorem focusOf_of_empty (single : root.focusIds.length < 2)
    (isEmpty : root.terminalIds = []) :
    focusOf root = .error .noTerminals := by
  unfold focusOf
  rw [isEmpty]
  rcases asking : root.focusIds with _ | ⟨first, _ | ⟨second, more⟩⟩
  · rfl
  · rfl
  · rw [asking, List.length_cons, List.length_cons] at single
    omega

theorem exists_focusOf (single : root.focusIds.length < 2)
    (nonempty : root.terminalIds ≠ []) :
    ∃ focusPaneId, focusOf root = .ok focusPaneId := by
  unfold focusOf
  obtain ⟨id, ids, isTerminals⟩ := List.exists_cons_of_ne_nil nonempty
  rw [isTerminals]
  rcases asking : root.focusIds with _ | ⟨first, _ | ⟨second, more⟩⟩
  · exact ⟨id, rfl⟩
  · exact ⟨first, rfl⟩
  · rw [asking, List.length_cons, List.length_cons] at single
    omega

end Focus

/-! ### Presets -/

/-- Planning the preset fails with a code, at a path and with details. -/
def FailsWith (preset : Preset) (code path : String)
    (details : Entries Value) : Prop :=
  ∃ error, ofPreset preset = .error error ∧
    (error.failure preset.source).code = code ∧
    (error.failure preset.source).path = some path ∧
    (error.failure preset.source).details = details

section Presets

variable {preset : Preset} {layout : Layout} {code path : String}
  {details : Entries Value}

/-- A layout is planned first, and then the focus is decided. -/
theorem ofPreset_eq (hasLayout : preset.layout = some layout) :
    ofPreset preset =
      (layout.planned (Position.paneId []) (Position.layoutPath [])).bind
        fun root => (focusOf root).bind fun focusPaneId =>
          .ok { root := root.withFocus focusPaneId, focusPaneId } := by
  rw [ofPreset, hasLayout]
  rfl

/-- How planning a layout ends. -/
inductive Outcome (layout : Layout) : Except PlanError Plan → Prop where
  | weightMissing {first : Position × Ratio} :
      Layout.IsFirstFixed (layout.splits []) first →
      Outcome layout (.error (.weightMissing
        (first.1.layoutPath ++ ".ratio") first.2.fixedCells))
  | focusConflict :
      (∀ split ∈ layout.splits [], ¬ split.2.IsFixedOnly) →
      2 ≤ layout.focusIds.length →
      Outcome layout (.error (.focusConflict layout.focusIds))
  | noTerminals :
      (∀ split ∈ layout.splits [], ¬ split.2.IsFixedOnly) →
      layout.focusIds.length < 2 → layout.terminals = [] →
      Outcome layout (.error .noTerminals)
  | planned {plan : Plan} :
      (∀ split ∈ layout.splits [], ¬ split.2.IsFixedOnly) →
      layout.focusIds.length < 2 → layout.terminals ≠ [] →
      Outcome layout (.ok plan)

/-- Where every split has a weight, the leaves decide. -/
theorem outcome_of_planned {root : PlanNode}
    (hasLayout : preset.layout = some layout)
    (weighted : ∀ split ∈ layout.splits [], ¬ split.2.IsFixedOnly)
    (planned : layout.planned (Position.paneId []) (Position.layoutPath []) =
      .ok root) : Outcome layout (ofPreset preset) := by
  have leaves := terminals_planned_leaves planned
  have asking : root.focusIds = layout.focusIds := by
    rw [PlanNode.focusIds, leaves, List.filter_map, List.map_map]
    rfl
  have noTerminal : root.terminalIds = [] ↔ layout.terminals = [] := by
    rw [PlanNode.terminalIds, leaves, List.map_eq_nil_iff,
      List.map_eq_nil_iff, ← layout.map_snd_leaves [], List.map_eq_nil_iff]
  rw [ofPreset_eq hasLayout, planned]
  change Outcome layout ((focusOf root).bind _)
  rcases Nat.lt_or_ge layout.focusIds.length 2 with single | several
  · have singleRoot : root.focusIds.length < 2 := asking ▸ single
    by_cases isEmpty : layout.terminals = []
    · rw [focusOf_of_empty singleRoot (noTerminal.mpr isEmpty)]
      exact .noTerminals weighted single isEmpty
    · obtain ⟨focusPaneId, focused⟩ :=
        exists_focusOf singleRoot (mt noTerminal.mp isEmpty)
      rw [focused]
      exact .planned weighted single isEmpty
  · have severalRoot : 2 ≤ root.focusIds.length := asking ▸ several
    rw [focusOf_of_several severalRoot, asking]
    exact .focusConflict weighted several

theorem outcome_ofPreset (hasLayout : preset.layout = some layout) :
    Outcome layout (ofPreset preset) := by
  have ends := Layout.planned_endsAtFirst [] layout
  unfold Layout.EndsAtFirst at ends
  cases found : (layout.splits []).find?
      fun other => Layout.lacksWeight other.2 with
  | some first =>
      rw [found] at ends
      dsimp only at ends
      rw [ofPreset_eq hasLayout, ends]
      exact .weightMissing (Layout.find?_lacking_iff.mp found)
  | none =>
      rw [found] at ends
      obtain ⟨root, planned⟩ := ends
      refine outcome_of_planned hasLayout (fun split member => ?_) planned
      rw [← Layout.lacksWeight_iff]
      exact List.find?_eq_none.mp found split member

/-- A layout is not planned for one reason only. -/
theorem Outcome.eq_error {result : Except PlanError Plan} {error : PlanError}
    (outcome : Outcome layout result)
    (isError : Outcome layout (.error error)) : result = .error error := by
  cases isError with
  | weightMissing isFirst =>
      cases outcome with
      | weightMissing isOther => rw [isOther.eq isFirst]
      | focusConflict weighted _ => exact absurd weighted isFirst.not_weighted
      | noTerminals weighted _ _ => exact absurd weighted isFirst.not_weighted
      | planned weighted _ _ => exact absurd weighted isFirst.not_weighted
  | focusConflict weighted several =>
      cases outcome with
      | weightMissing isFirst => exact absurd weighted isFirst.not_weighted
      | focusConflict _ _ => rfl
      | noTerminals _ single _ => exact absurd several single.not_ge
      | planned _ single _ => exact absurd several single.not_ge
  | noTerminals weighted single isEmpty =>
      cases outcome with
      | weightMissing isFirst => exact absurd weighted isFirst.not_weighted
      | focusConflict _ several => exact absurd several single.not_ge
      | noTerminals _ _ _ => rfl
      | planned _ _ nonempty => exact absurd isEmpty nonempty

theorem failsWith_iff_outcome (hasLayout : preset.layout = some layout) :
    FailsWith preset code path details ↔
      ∃ error, Outcome layout (.error error) ∧ error.code = code ∧
        path = error.path ∧ details = error.details := by
  have outcome := outcome_ofPreset hasLayout
  constructor
  · rintro ⟨error, failed, isCode, isPath, isDetails⟩
    rw [failed] at outcome
    exact ⟨error, outcome, isCode, (Option.some.inj isPath).symm,
      isDetails.symm⟩
  · rintro ⟨error, isError, rfl, rfl, rfl⟩
    exact ⟨error, outcome.eq_error isError, rfl, rfl, rfl⟩

/-! ### The three reasons -/

theorem failsWith_weightMissing_iff (hasLayout : preset.layout = some layout) :
    FailsWith preset "RATIO_WEIGHT_MISSING" path details ↔
      ∃ first, Layout.IsFirstFixed (layout.splits []) first ∧
        path = first.1.layoutPath ++ ".ratio" ∧
        details = [("ratio", .list
          (first.2.fixedCells.map fun (count : Nat) => .int count))] := by
  rw [failsWith_iff_outcome hasLayout]
  constructor
  · rintro ⟨error, isError, isCode, isPath, isDetails⟩
    cases isError with
    | weightMissing isFirst => exact ⟨_, isFirst, isPath, isDetails⟩
    | focusConflict _ _ => simp [PlanError.code] at isCode
    | noTerminals _ _ _ => simp [PlanError.code] at isCode
  · rintro ⟨first, isFirst, isPath, isDetails⟩
    exact ⟨_, .weightMissing isFirst, rfl, isPath, isDetails⟩

theorem failsWith_focusConflict_iff (hasLayout : preset.layout = some layout)
    (weighted : ∀ split ∈ layout.splits [], ¬ split.2.IsFixedOnly) :
    FailsWith preset "FOCUS_CONFLICT" path details ↔
      2 ≤ layout.focusIds.length ∧ path = "preset.layout" ∧
        details = [("focus_pane_ids",
          .list (layout.focusIds.map Value.text))] := by
  rw [failsWith_iff_outcome hasLayout]
  constructor
  · rintro ⟨error, isError, isCode, isPath, isDetails⟩
    cases isError with
    | weightMissing _ => simp [PlanError.code] at isCode
    | focusConflict _ several => exact ⟨several, isPath, isDetails⟩
    | noTerminals _ _ _ => simp [PlanError.code] at isCode
  · rintro ⟨several, isPath, isDetails⟩
    exact ⟨_, .focusConflict weighted several, rfl, isPath, isDetails⟩

theorem failsWith_noTerminals_iff (hasLayout : preset.layout = some layout)
    (weighted : ∀ split ∈ layout.splits [], ¬ split.2.IsFixedOnly)
    (single : layout.focusIds.length < 2) :
    FailsWith preset "NO_TERMINAL_PANES" path details ↔
      layout.terminals = [] ∧ path = "preset.layout" ∧ details = [] := by
  rw [failsWith_iff_outcome hasLayout]
  constructor
  · rintro ⟨error, isError, isCode, isPath, isDetails⟩
    cases isError with
    | weightMissing _ => simp [PlanError.code] at isCode
    | focusConflict _ _ => simp [PlanError.code] at isCode
    | noTerminals _ _ isEmpty => exact ⟨isEmpty, isPath, isDetails⟩
  · rintro ⟨isEmpty, isPath, isDetails⟩
    exact ⟨_, .noTerminals weighted single isEmpty, rfl, isPath, isDetails⟩

theorem exists_ofPreset_ok (hasLayout : preset.layout = some layout)
    (weighted : ∀ split ∈ layout.splits [], ¬ split.2.IsFixedOnly)
    (single : layout.focusIds.length < 2) (nonempty : layout.terminals ≠ []) :
    ∃ plan, ofPreset preset = .ok plan := by
  have outcome := outcome_ofPreset hasLayout
  generalize ofPreset preset = result at outcome
  cases outcome with
  | weightMissing isFirst => exact absurd weighted isFirst.not_weighted
  | focusConflict _ several => exact absurd several single.not_ge
  | noTerminals _ _ isEmpty => exact absurd isEmpty nonempty
  | planned _ _ _ => exact ⟨_, rfl⟩

/-- A layout that was compiled has a terminal. -/
theorem not_failsWith_noTerminals {source : String} {value : Value}
    (compiled : Preset.ofValue source value = .ok preset) :
    ¬ FailsWith preset "NO_TERMINAL_PANES" path details := by
  have children := (Preset.builtLayout_isCompiled compiled).hasChildren
  unfold Preset.builtLayout at children
  cases hasLayout : preset.layout with
  | none =>
      rintro ⟨error, failed, _⟩
      rw [ofPreset, hasLayout] at failed
      cases failed
  | some layout =>
      rw [hasLayout] at children
      rw [failsWith_iff_outcome hasLayout]
      rintro ⟨error, isError, isCode, _⟩
      cases isError with
      | weightMissing _ => simp [PlanError.code] at isCode
      | focusConflict _ _ => simp [PlanError.code] at isCode
      | noTerminals _ _ isEmpty =>
          exact Layout.terminals_ne_nil children isEmpty

end Presets

/-- A preset with a layout has no plan in three cases, the first of which that
applies is reported: the ratio of some split consists of numbers of cells,
several leaves ask for the focus, or there is no leaf.  The third case is not
met by presets that were compiled. -/
theorem failsWith_iff (preset : Preset) :
    (∀ layout, preset.layout = some layout →
      ((∃ path details, FailsWith preset "RATIO_WEIGHT_MISSING" path details) ↔
        ∃ split ∈ layout.splits [], split.2.IsFixedOnly) ∧
      (∀ path details,
        FailsWith preset "RATIO_WEIGHT_MISSING" path details ↔
          ∃ first, Layout.IsFirstFixed (layout.splits []) first ∧
            path = first.1.layoutPath ++ ".ratio" ∧
            details = [("ratio", .list
              (first.2.fixedCells.map fun (count : Nat) => .int count))]) ∧
      ((∀ split ∈ layout.splits [], ¬ split.2.IsFixedOnly) →
        (∀ path details, FailsWith preset "FOCUS_CONFLICT" path details ↔
          2 ≤ layout.focusIds.length ∧ path = "preset.layout" ∧
            details = [("focus_pane_ids",
              .list (layout.focusIds.map Value.text))]) ∧
        (layout.focusIds.length < 2 →
          (∀ path details, FailsWith preset "NO_TERMINAL_PANES" path details ↔
            layout.terminals = [] ∧ path = "preset.layout" ∧ details = []) ∧
          (layout.terminals ≠ [] → ∃ plan, ofPreset preset = .ok plan)))) ∧
    ∀ source value, Preset.ofValue source value = .ok preset →
      ∀ path details, ¬ FailsWith preset "NO_TERMINAL_PANES" path details := by
  constructor
  · intro layout hasLayout
    refine ⟨?_, fun _ _ => failsWith_weightMissing_iff hasLayout,
      fun weighted => ⟨
        fun _ _ => failsWith_focusConflict_iff hasLayout weighted,
        fun single => ⟨fun _ _ => ?_, fun nonempty => ?_⟩⟩⟩
    · simp only [failsWith_weightMissing_iff hasLayout,
        ← Layout.exists_isFirstFixed_iff]
      constructor
      · rintro ⟨_, _, first, isFirst, _⟩
        exact ⟨first, isFirst⟩
      · rintro ⟨first, isFirst⟩
        exact ⟨_, _, first, isFirst, rfl, rfl⟩
    · exact failsWith_noTerminals_iff hasLayout weighted single
    · exact exists_ofPreset_ok hasLayout weighted single nonempty
  · exact fun _ _ compiled _ _ => not_failsWith_noTerminals compiled

end Plan

/-- Two splits without a weight, in the first of which both terminals ask for
the focus. -/
def Preset.twiceFixed : Preset where
  name := "Fixed"
  source := "local"
  layout := some (.split .horizontal [.weight 1, .weight 1, .weight 1] [
    .terminal { name := "shell" },
    .split .vertical [.cells 25 (by decide), .cells 45 (by decide)] [
      .terminal { name := "log", focus := true },
      .terminal { name := "top", focus := true }],
    .split .vertical [.cells 7 (by decide)] [.terminal {}]])

theorem Plan.failsWith_twiceFixed :
    FailsWith .twiceFixed "RATIO_WEIGHT_MISSING" "preset.layout.panes[1].ratio"
      [("ratio", .list [.int 25, .int 45])] := by
  refine (((failsWith_iff .twiceFixed).1 _ rfl).2.1 _ _).mpr
    ⟨([1], [.cells 25 (by decide), .cells 45 (by decide)]), ?_, by decide, rfl⟩
  refine ⟨[([], [.weight 1, .weight 1, .weight 1])], _, rfl, ?_, ?_⟩
  · refine ⟨List.cons_ne_nil _ _, ?_⟩
    simp only [List.forall_mem_cons]
    exact ⟨⟨25, _, rfl⟩, ⟨45, _, rfl⟩, List.forall_mem_nil _⟩
  · rw [List.forall_mem_singleton]
    rintro ⟨_, areFixed⟩
    obtain ⟨_, _, isFixed⟩ := areFixed _ List.mem_cons_self
    cases isFixed

end PaneLayout
