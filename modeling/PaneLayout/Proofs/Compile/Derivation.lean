import PaneLayout.Proofs.Compile.Correct
import PaneLayout.Proofs.Plan.Planned

/-!
# How a node is compiled

A layout that the compiler returns was compiled in one way: every split passed
the checks of its header and has the layouts of its children in order, and every
leaf is the terminal of its entries.  What holds of all compiled layouts is
proved by recursion on this derivation, and not on the compiler.
-/

namespace PaneLayout.Compile

open Value

mutual

/-- The node at a path was compiled to a layout. -/
inductive Compiles : String → Value → Layout → Prop where
  | split {path typeName : String} {entries : List (Value × Value)}
      {header : SplitHeader} {items : List Value} {panes : List Layout} :
      nodeKind entries = .split typeName →
      splitHeader path typeName entries = .ok header →
      lookup entries "panes" = some (.list items) → items ≠ [] →
      CompilesAll path 0 items panes →
      Compiles path (.mapping entries)
        (.split header.orientation header.ratio panes)
  | terminal {path : String} {entries : List (Value × Value)}
      {leaf : Terminal} :
      nodeKind entries = .terminal → terminal entries = .ok leaf →
      Compiles path (.mapping entries) (.terminal leaf)

/-- The children of the node at a path were compiled, from an index on. -/
inductive CompilesAll : String → Nat → List Value → List Layout → Prop where
  | nil {path : String} {index : Nat} : CompilesAll path index [] []
  | cons {path : String} {index : Nat} {item : Value} {items : List Value}
      {pane : Layout} {panes : List Layout} :
      Compiles (childPath path index) item pane →
      CompilesAll path (index + 1) items panes →
      CompilesAll path index (item :: items) (pane :: panes)

end

theorem ok_of_lift {α : Type} {result : Except Fault α} {value : α}
    (ok : (MonadLift.monadLift result : Except Error α) = .ok value) :
    result = .ok value := by
  cases result with
  | error cause => cases ok
  | ok made =>
      cases ok
      rfl

/-- Every entry of a ratio was read. -/
theorem ratioEntries_parse {path : String} {index : Nat} {raw : List Value}
    {ratio : Ratio} (ok : ratioEntries path index raw = .ok ratio) :
    List.Forall₂ (fun value entry => RatioEntry.parse value = .ok (some entry))
      raw ratio := by
  induction raw generalizing index ratio with
  | nil =>
      cases ok
      exact .nil
  | cons first rest induction =>
      obtain ⟨parsed, isParsed, ok⟩ := exists_of_bind_eq_ok ok
      cases parsed with
      | none => cases ok
      | some entry =>
          obtain ⟨later, laterOk, made⟩ := exists_of_bind_eq_ok ok
          cases made
          exact .cons (ok_of_lift isParsed) (induction laterOk)

/-- A header has children, a weight or a count for each of them, and the entries
of its ratio are those of the document. -/
theorem splitHeader_ok {path typeName : String}
    {entries : List (Value × Value)} {header : SplitHeader}
    (ok : splitHeader path typeName entries = .ok header) :
    ∃ items raw, lookup entries "panes" = some (.list items) ∧ items ≠ [] ∧
      lookup entries "ratio" = some (.list raw) ∧
      raw.length = items.length ∧
      ratioEntries path 0 raw = .ok header.ratio := by
  unfold splitHeader at ok
  cases named : Orientation.ofName? typeName with
  | none =>
      rw [named] at ok
      cases ok
  | some orientation =>
  cases hasPanes : itemsField entries "panes" with
  | none =>
      rw [named, hasPanes] at ok
      cases ok
  | some panes =>
  cases hasRatio : itemsField entries "ratio" with
  | none =>
      rw [named, hasPanes, hasRatio] at ok
      cases ok
  | some raw =>
      rw [named, hasPanes, hasRatio] at ok
      simp only [pure_bind] at ok
      split at ok
      · cases ok
      · next same =>
        obtain ⟨ratio, ratioOk, made⟩ := exists_of_bind_eq_ok ok
        cases made
        obtain ⟨panesThere, nonempty⟩ := itemsField_eq_some_iff.mp hasPanes
        exact ⟨panes, raw, panesThere, nonempty,
          (itemsField_eq_some_iff.mp hasRatio).1, not_not.mp same, ratioOk⟩

mutual

theorem compiles_of_node : ∀ {path : String} {value : Value}
    {layout : Layout}, node path value = .ok layout →
    Compiles path value layout
  | path, .mapping entries, layout, ok => by
      unfold node at ok
      split at ok
      · next typeName isSplit =>
        obtain ⟨header, headerOk, ok⟩ := exists_of_bind_eq_ok ok
        obtain ⟨panes, panesOk, made⟩ := exists_of_bind_eq_ok ok
        cases made
        obtain ⟨items, _, found, nonempty, _⟩ := splitHeader_ok headerOk
        exact .split isSplit headerOk found nonempty
          (compilesAll_of_panesOf found panesOk)
      · next isTerminal =>
        obtain ⟨leaf, leafOk, made⟩ := exists_of_bind_eq_ok ok
        cases made
        exact .terminal isTerminal (ok_of_lift leafOk)
      · cases ok
  | _, .null, _, ok => nomatch ok
  | _, .bool _, _, ok => nomatch ok
  | _, .int _, _, ok => nomatch ok
  | _, .float _, _, ok => nomatch ok
  | _, .text _, _, ok => nomatch ok
  | _, .bytes _, _, ok => nomatch ok
  | _, .date _, _, ok => nomatch ok
  | _, .timestamp _, _, ok => nomatch ok
  | _, .list _, _, ok => nomatch ok
  | _, .tuple _, _, ok => nomatch ok
  | _, .set _, _, ok => nomatch ok

theorem compilesAll_of_panesOf : ∀ {path : String}
    {entries : List (Value × Value)} {items : List Value}
    {panes : List Layout}, lookup entries "panes" = some (.list items) →
    panesOf path entries = .ok panes → CompilesAll path 0 items panes
  | _, [], _, _, found, _ => nomatch found
  | path, (key, value) :: rest, items, panes, found, ok => by
      unfold panesOf at ok
      by_cases here : key.isText "panes" = true
      · rw [if_pos here] at ok
        have isList : value = .list items := by
          simpa [lookup, here] using found
        exact compilesAll_of_childrenOf isList ok
      · rw [if_neg here] at ok
        have foundLater : lookup rest "panes" = some (.list items) := by
          simpa [lookup, here] using found
        exact compilesAll_of_panesOf foundLater ok

theorem compilesAll_of_childrenOf : ∀ {path : String} {value : Value}
    {items : List Value} {panes : List Layout}, value = .list items →
    childrenOf path value = .ok panes → CompilesAll path 0 items panes
  | _, .list _, _, _, rfl, ok => compilesAll_of_nodes ok
  | _, .null, _, _, isList, _ => nomatch isList
  | _, .bool _, _, _, isList, _ => nomatch isList
  | _, .int _, _, _, isList, _ => nomatch isList
  | _, .float _, _, _, isList, _ => nomatch isList
  | _, .text _, _, _, isList, _ => nomatch isList
  | _, .bytes _, _, _, isList, _ => nomatch isList
  | _, .date _, _, _, isList, _ => nomatch isList
  | _, .timestamp _, _, _, isList, _ => nomatch isList
  | _, .tuple _, _, _, isList, _ => nomatch isList
  | _, .set _, _, _, isList, _ => nomatch isList
  | _, .mapping _, _, _, isList, _ => nomatch isList

theorem compilesAll_of_nodes : ∀ {path : String} {index : Nat}
    {items : List Value} {panes : List Layout},
    nodes path index items = .ok panes → CompilesAll path index items panes
  | _, _, [], _, ok => by
      cases ok
      exact .nil
  | path, index, item :: items, panes, ok => by
      obtain ⟨first, firstOk, ok⟩ := exists_of_bind_eq_ok ok
      obtain ⟨later, laterOk, made⟩ := exists_of_bind_eq_ok ok
      cases made
      exact .cons (compiles_of_node firstOk) (compilesAll_of_nodes laterOk)

end

/-- The layout of a preset is compiled from what stands under its key. -/
theorem compiles_of_layout {entries : List (Value × Value)} {tree : Layout}
    (ok : layout entries = .ok (some tree)) :
    ∃ value, lookup entries "layout" = some value ∧
      Compiles layoutPath value tree := by
  unfold layout at ok
  split at ok
  · cases ok
  · cases ok
  · next value _ found =>
    cases result : node layoutPath value with
    | error error =>
        rw [result] at ok
        cases ok
    | ok known =>
        rw [result] at ok
        cases ok
        exact ⟨value, found, compiles_of_node result⟩

end PaneLayout.Compile
