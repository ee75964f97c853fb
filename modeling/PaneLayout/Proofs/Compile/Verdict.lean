import PaneLayout.Proofs.Compile.Located

/-!
# The verdict of the compiler

Nodes that the grammar accepts have no violations, so a document is either
described or has a first violation, never both.  The compiler says which of the
two it is.
-/

namespace PaneLayout.Compile

open Value

/-! ### Nodes without violations -/

theorem entryViolations_eq_nil {raw : List Value} {ratio : Ratio}
    (short : ∀ entry ∈ raw, RatioEntry.IsShort entry)
    (denotes : List.Forall₂ RatioEntry.Denotes raw ratio) (place : Place)
    (index : Nat) : entryViolations place index raw = [] := by
  induction denotes generalizing index with
  | nil => rfl
  | cons first rest induction =>
      obtain ⟨shortFirst, shortRest⟩ := List.forall_mem_cons.mp short
      have parsed := (RatioEntry.parse_eq_some_iff shortFirst).mpr first
      simp only [entryViolations, parsed, List.nil_append]
      exact induction shortRest (index + 1)

theorem panesViolations_eq {entries : List (Value × Value)}
    {panes : List Value} (found : lookup entries "panes" = some (.list panes))
    (place : Place) :
    panesViolations place entries = nodesViolations place 0 panes := by
  induction entries with
  | nil => cases found
  | cons entry rest induction =>
      obtain ⟨key, value⟩ := entry
      unfold panesViolations
      by_cases here : key.isText "panes" = true
      · have same : value = .list panes := by simpa [lookup, here] using found
        rw [if_pos here, same]
        rfl
      · rw [if_neg here]
        exact induction (by simpa [lookup, here] using found)

mutual

theorem nodeViolations_eq_nil :
    ∀ {value : Value} {layout : Layout}, Describes value layout →
      value.Everywhere Manageable → ∀ place, nodeViolations place value = []
  | _, _, @Describes.split _ orientation panes raw _ _ hasType hasPanes
      nonempty hasRatio same denotes describes, manageable, place => by
      have kind := nodeKind_eq_split_iff.mpr ⟨hasType, by simp [hasPanes]⟩
      have inside := Everywhere.of_lookup manageable.2 hasPanes
      have ratioNonempty : raw ≠ [] := by
        rintro rfl
        exact nonempty (List.length_eq_zero_iff.mp same.symm)
      have panesThere := itemsField_eq_some_iff.mpr ⟨hasPanes, nonempty⟩
      have ratioThere := itemsField_eq_some_iff.mpr ⟨hasRatio, ratioNonempty⟩
      have entriesFine := entryViolations_eq_nil
        (manageable.here.2 _ hasRatio) denotes place 0
      have childrenFine := nodesViolations_eq_nil describes inside.2 place 0
      simp [nodeViolations, kind, ownViolations, ofName?_name, panesThere,
        ratioThere, same, entriesFine, panesViolations_eq hasPanes,
        childrenFine]
  | _, _, .terminal noPanes named _ _, _, place => by
      have kind := nodeKind_eq_terminal_iff.mpr ⟨noPanes, named⟩
      simp [nodeViolations, kind]

theorem nodesViolations_eq_nil :
    ∀ {items : List Value} {layouts : List Layout},
      DescribesAll items layouts → EverywhereList Manageable items →
      ∀ place index, nodesViolations place index items = []
  | _, _, .nil, _, _, _ => rfl
  | _, _, .cons first rest, ⟨manageable, manageableRest⟩, place, index => by
      simp only [nodesViolations, nodeViolations_eq_nil first manageable,
        nodesViolations_eq_nil rest manageableRest, List.append_nil]

end

/-! ### Documents -/

theorem violations_eq_nil {value : Value} {layout : Option Layout}
    (manageable : value.Everywhere Manageable)
    (describes : DescribesDocument value layout) : violations value = [] := by
  cases describes with
  | absent found => simp [violations, found]
  | null found => simp [violations, found]
  | @node _ node _ found describes =>
      have present : node ≠ .null := by
        rintro rfl
        cases describes
      rw [violations_node found present]
      exact nodeViolations_eq_nil describes
        (Everywhere.of_lookup manageable.2 found) _

theorem layout_node {entries : List (Value × Value)} {value : Value}
    (found : lookup entries "layout" = some value) (present : value ≠ .null) :
    layout entries =
      (node (Place.text [.field "layout"]) value).map some := by
  have path : Place.text [.field "layout"] = layoutPath := rfl
  rw [path]
  cases value <;> simp_all [layout]

theorem layout_outcome {entries : List (Value × Value)}
    (manageable : (Value.mapping entries).Everywhere Manageable) :
    Outcome (violations (.mapping entries))
      (DescribesDocument (.mapping entries)) (layout entries) := by
  cases found : lookup entries "layout" with
  | none =>
      have nothing : layout entries = .ok none := by simp [layout, found]; rfl
      rw [nothing]
      exact .ok (by simp [violations, found]) (.absent found)
  | some value =>
      by_cases present : value = .null
      · have nothing : layout entries = .ok none := by
          simp [layout, found, present]
          rfl
        rw [nothing]
        exact .ok (by simp [violations, found, present])
          (.null (present ▸ found))
      · rw [violations_node found present, layout_node found present]
        have outcome := node_outcome [.field "layout"] value
          (Everywhere.of_lookup manageable.2 found)
        exact outcome.map some fun _ => .node found

theorem compile_outcome (source : String) {value : Value}
    (manageable : value.Everywhere Manageable) :
    Outcome (violations value)
      (fun preset => DescribesDocument value preset.layout)
      (compile source value) := by
  cases value with
  | mapping entries =>
      exact (layout_outcome manageable).map _ fun _ => id
  | _ => exact .error rfl

end PaneLayout.Compile

namespace PaneLayout.Preset

open Compile

/-- The compiler accepts exactly what the grammar describes, with the tree, the
orientations and the ratios that it describes.  Otherwise it reports the first
violation in pre-order, under the path of the place where it stands. -/
theorem ofValue_meets_grammar (source : String) {value : Value}
    (manageable : value.Everywhere Manageable) :
    ((∃ preset, ofValue source value = .ok preset) ↔
      ∃ layout, DescribesDocument value layout) ∧
    (∀ preset, ofValue source value = .ok preset →
      DescribesDocument value preset.layout) ∧
    ∀ problem, ofValue source value = .error problem →
      ∃ place what failure,
        problem = .failure failure ∧
        (violations value).head? = some (place, what) ∧
        failure.stage = "compile" ∧ failure.code = what.code ∧
        failure.path = some place.text ∧ failure.details = what.details ∧
        what.StandsAt (place.follow value) := by
  have outcome := compile_outcome source manageable
  unfold ofValue
  generalize compile source value = result at outcome
  cases outcome with
  | @ok preset nothing describes =>
      refine ⟨⟨fun _ => ⟨_, describes⟩, fun _ => ⟨preset, rfl⟩⟩, ?_, nofun⟩
      rintro _ ⟨⟩
      exact describes
  | @error place what rest first =>
      refine ⟨⟨nofun, ?_⟩, nofun, ?_⟩
      · rintro ⟨layout, describes⟩
        rw [violations_eq_nil manageable describes] at first
        cases first
      · rintro _ ⟨⟩
        refine ⟨place, what, _, rfl, by rw [first]; rfl, rfl, rfl, rfl, rfl, ?_⟩
        have member : (place, what) ∈ violations value := by simp [first]
        exact violations_standAt manageable (place, what) member

/-- A split beside a terminal, the second child of its parent, without ratio. -/
def withoutInnerRatio : Value :=
  .mapping [(.text "layout", .mapping [
    (.text "type", .text "vertical"),
    (.text "ratio", .list [.text "30c", .text " 2 c"]),
    (.text "panes", .list [
      .mapping [(.text "name", .text "shell")],
      .mapping [
        (.text "type", .text "horizontal"),
        (.text "panes", .list [.mapping [(.text "command", .text "top")]])]])])]

theorem ofValue_reports_inner_ratio :
    withoutInnerRatio.Everywhere Manageable ∧
    ∃ failure, ofValue "local" withoutInnerRatio = .error (.failure failure) ∧
      failure.code = "LAYOUT_RATIO_MISSING" ∧
      failure.path = some "preset.layout.panes[1].ratio" := by
  have manageable : withoutInnerRatio.Everywhere Manageable := by
    have fixed : RatioEntry.IsShort (.text "30c") :=
      RatioEntry.isShort_of_length_le (by decide)
    have spaced : RatioEntry.IsShort (.text " 2 c") :=
      RatioEntry.isShort_of_length_le (by decide)
    simp [withoutInnerRatio, Value.Everywhere, Value.EverywhereList,
      Value.EverywhereEntries, Manageable, Value.FitsDouble, Value.lookup,
      Value.isText, fixed, spaced]
  refine ⟨manageable, ?_⟩
  obtain ⟨accepts, described, reports⟩ :=
    ofValue_meets_grammar "local" manageable
  have first : (violations withoutInnerRatio).head? =
      some ([.field "layout", .item "panes" 1, .field "ratio"],
        .ratioMissing) := rfl
  cases result : ofValue "local" withoutInnerRatio with
  | ok preset =>
      rw [violations_eq_nil manageable (described preset result)] at first
      cases first
  | error problem =>
      obtain ⟨place, what, failure, rfl, isFirst, _, code, path, _⟩ :=
        reports problem result
      rw [first] at isFirst
      obtain ⟨rfl, rfl⟩ := isFirst
      exact ⟨failure, rfl, code, path⟩

end PaneLayout.Preset
