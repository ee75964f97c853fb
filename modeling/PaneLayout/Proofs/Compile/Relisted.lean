import PaneLayout.Proofs.Compile.Reordered
import PaneLayout.Proofs.Json.Relisted

/-!
# Compiling relisted presets

Of a set the compiler keeps only the canonical form.  So a preset is compiled to
the same layout however the sets in it are listed.
-/

namespace PaneLayout

open Value

theorem Value.relisted_keepsShape : KeepsShape Relisted := by
  intro value other relisted
  cases relisted with
  | refl =>
      cases value with
      | list items => exact .list (List.forall₂_same.mpr fun _ _ => .refl _)
      | _ => exact .same (by simp)
  | list relisted => exact .list relisted.forall₂
  | tuple _ => exact .tuple
  | set _ _ => exact .set
  | mapping _ => exact .mapping

namespace Compile

/-- The entries that no field of a terminal uses. -/
def unused (entries : List (Value × Value)) : List (Value × Value) :=
  entries.filter fun entry => !isTerminalKey entry.1

/-! ### Fields -/

section Fields

variable {entries others : List (Value × Value)}
  (pairs : List.Forall₂ RelistedUnder entries others)

include pairs

theorem assignments_relisted :
    entries.filterMapM assignment? = others.filterMapM assignment? := by
  induction pairs with
  | nil => rfl
  | @cons entry other _ _ pair _ induction =>
      obtain ⟨key, value⟩ := entry
      obtain ⟨otherKey, otherValue⟩ := other
      obtain ⟨same, relisted⟩ := pair
      cases same
      have isSame :
          assignment? (key, value) = assignment? (key, otherValue) := by
        cases relisted <;> rfl
      rw [List.filterMapM_cons, List.filterMapM_cons, isSame, induction]

theorem unused_relisted :
    List.Forall₂ RelistedUnder (unused entries) (unused others) := by
  unfold unused
  induction pairs with
  | nil => exact .nil
  | @cons entry other _ _ pair _ induction =>
      rw [List.filter_cons, List.filter_cons, pair.1]
      split
      · exact .cons pair induction
      · exact induction

end Fields

theorem environment_relisted {content other : Option Value}
    (there : Option.Rel Relisted content other)
    (listable : ∀ value ∈ content, value.Everywhere IsListable) :
    environment content = environment other := by
  cases there with
  | none => rfl
  | some relisted =>
      cases relisted with
      | mapping relisted =>
          have pairs := relisted.pairs (listable _ rfl).1
          rw [environment, environment, assignments_relisted pairs]
      | _ => rfl

/-! ### Options -/

/-- The options that a terminal spells out. -/
def explicitOptions (entries : List (Value × Value)) :
    Except Fault (Entries Value) :=
  match lookup entries "options" with
  | some (.mapping explicit) => do
      return memberValues (← (Value.mapping explicit).canonical)
  | _ => return []

/-- Options are explicit ones, overlaid with the unused entries. -/
theorem options_eq (entries : List (Value × Value)) :
    options entries = do
      let overlay := memberValues (← (Value.mapping (unused entries)).canonical)
      let merged := (← explicitOptions entries).putAll overlay
      return if merged.isEmpty then none else some merged := by
  unfold options explicitOptions unused
  dsimp only
  cases converted : (Value.mapping (entries.filter fun entry =>
      !isTerminalKey entry.1)).canonical with
  | error cause => rfl
  | ok json =>
      have unique :=
        (memberValues_isKeyed (hasDistinctKeys_canonical converted)).unique
      -- Without explicit options the overlay is put into no options.
      have plain : memberValues json = Entries.putAll [] (memberValues json) :=
        (Entries.ofList_of_nodup unique).symm
      generalize lookup entries "options" = content
      cases content with
      | none => exact congrArg (fun merged : Entries Value => Except.ok
          (if merged.isEmpty then none else some merged)) plain
      | some value =>
          cases value with
          | mapping explicit =>
              dsimp only
              cases (Value.mapping explicit).canonical <;> rfl
          | _ => exact congrArg (fun merged : Entries Value => Except.ok
              (if merged.isEmpty then none else some merged)) plain

/-! ### Terminals -/

section Terminals

variable {entries others : List (Value × Value)}
  (pairs : List.Forall₂ RelistedUnder entries others)
  (listable : (Value.mapping entries).Everywhere IsListable)

include listable in
theorem unused_listable :
    (Value.mapping (unused entries)).Everywhere IsListable := by
  refine ⟨fun entry member => listable.1 entry (List.mem_filter.mp member).1,
    everywhereEntries_iff.mpr fun entry member => ?_⟩
  exact everywhereEntries_iff.mp listable.2 entry (List.mem_filter.mp member).1

include pairs listable

theorem explicitOptions_relisted {base : Entries Value}
    (ok : explicitOptions entries = .ok base) :
    explicitOptions others = .ok base := by
  have there := lookup_relisted pairs "options"
  have explicitListable : ∀ value, lookup entries "options" = some value →
      value.Everywhere IsListable :=
    fun value found => Everywhere.of_lookup listable.2 found
  unfold explicitOptions at ok ⊢
  generalize lookup entries "options" = content at there ok explicitListable
  generalize lookup others "options" = other at there
  cases there with
  | none => exact ok
  | @some value other there =>
      cases value with
      | mapping explicit =>
          cases other with
          | mapping otherExplicit =>
              obtain ⟨json, converted, made⟩ := exists_of_bind_eq_ok ok
              dsimp only
              rw [canonical_of_relisted there (explicitListable _ rfl)
                converted]
              exact made
          | _ => cases there
      | _ => cases there <;> exact ok

theorem options_relisted {fields : Option (Entries Value)}
    (ok : options entries = .ok fields) : options others = .ok fields := by
  rw [options_eq] at ok ⊢
  obtain ⟨json, converted, ok⟩ := exists_of_bind_eq_ok ok
  obtain ⟨base, baseOk, made⟩ := exists_of_bind_eq_ok ok
  rw [canonical_of_relisted (relisted_of_pairs (unused_relisted pairs))
    (unused_listable listable) converted,
    explicitOptions_relisted pairs listable baseOk]
  exact made

theorem terminal_relisted {leaf : Terminal} (ok : terminal entries = .ok leaf) :
    terminal others = .ok leaf := by
  obtain ⟨env, envOk, ok⟩ := exists_of_bind_eq_ok ok
  obtain ⟨milliseconds, delayOk, ok⟩ := exists_of_bind_eq_ok ok
  obtain ⟨merged, optionsOk, made⟩ := exists_of_bind_eq_ok ok
  rw [environment_relisted (lookup_relisted pairs "env") fun value found =>
    Everywhere.of_lookup listable.2 found] at envOk
  rw [delay_of_keeps relisted_keepsShape (lookup_relisted pairs "delay")]
    at delayOk
  simp only [textField_of_keeps relisted_keepsShape (lookup_relisted pairs),
    flagField_of_keeps relisted_keepsShape (lookup_relisted pairs)] at made
  rw [terminal, envOk, delayOk, options_relisted pairs listable optionsOk]
  exact made

end Terminals

/-! ### Nodes -/

theorem ratioEntries_relisted {path : String} {index : Nat}
    {raw others : List Value} {ratio : Ratio}
    (relisted : List.Forall₂ Relisted raw others)
    (ok : ratioEntries path index raw = .ok ratio) :
    ratioEntries path index others = .ok ratio := by
  induction relisted generalizing index ratio with
  | nil => exact ok
  | cons isRelisted _ induction =>
      obtain ⟨parsed, isParsed, ok⟩ := exists_of_bind_eq_ok ok
      cases parsed with
      | none => cases ok
      | some entry =>
          obtain ⟨later, laterOk, made⟩ := exists_of_bind_eq_ok ok
          rw [RatioEntry.parse_of_keeps relisted_keepsShape isRelisted]
            at isParsed
          rw [ratioEntries, isParsed]
          change (do return entry :: (← ratioEntries path (index + 1) _)) = _
          rw [induction laterOk]
          exact made

section Nodes

variable {entries others : List (Value × Value)}
  (pairs : List.Forall₂ RelistedUnder entries others)

include pairs

theorem splitHeader_relisted {path typeName : String} {header : SplitHeader}
    (ok : splitHeader path typeName entries = .ok header) :
    splitHeader path typeName others = .ok header := by
  have itemsFields :=
    itemsField_of_keeps relisted_keepsShape (lookup_relisted pairs)
  have items := itemsFields "panes"
  have ratios := itemsFields "ratio"
  unfold splitHeader at ok ⊢
  generalize itemsField entries "panes" = panes at items ok
  generalize itemsField others "panes" = otherPanes at items
  generalize itemsField entries "ratio" = raw at ratios ok
  generalize itemsField others "ratio" = otherRaw at ratios
  generalize Orientation.ofName? typeName = named at ok ⊢
  cases named with
  | none => cases ok
  | some orientation =>
      cases items with
      | none => cases ok
      | some items =>
          cases ratios with
          | none => cases ok
          | some ratios =>
              simp only [pure_bind] at ok ⊢
              rw [items.length_eq, ratios.length_eq] at ok
              split at ok
              · cases ok
              · next same =>
                rw [if_neg same]
                obtain ⟨ratio, ratioOk, made⟩ := exists_of_bind_eq_ok ok
                rw [ratioEntries_relisted ratios ratioOk]
                exact made

end Nodes

mutual

/-- Relisted nodes are compiled to the same layout. -/
theorem node_relisted : ∀ {value other : Value} {path : String}
    {layout : Layout}, value.Relisted other →
    value.Everywhere IsListable → node path value = .ok layout →
    node path other = .ok layout
  | _, _, _, _, .refl _, _, ok => ok
  | _, _, _, _, .mapping relisted, listable, ok => by
      have pairs := relisted.pairs listable.1
      unfold node at ok ⊢
      rw [← nodeKind_of_keeps relisted_keepsShape (lookup_relisted pairs)]
      split at ok
      · obtain ⟨header, headerOk, ok⟩ := exists_of_bind_eq_ok ok
        obtain ⟨panes, panesOk, made⟩ := exists_of_bind_eq_ok ok
        rw [splitHeader_relisted pairs headerOk]
        change (do
          let panes ← panesOf _ _
          return Layout.split header.orientation header.ratio panes) = _
        rw [panesOf_relisted relisted listable.1 listable.2 panesOk]
        exact made
      · obtain ⟨leaf, leafOk, made⟩ := exists_of_bind_eq_ok ok
        rw [terminal_relisted pairs listable (ok_of_lift leafOk)]
        exact made
      · cases ok
  | _, _, _, _, .list _, _, ok => nomatch ok
  | _, _, _, _, .tuple _, _, ok => nomatch ok
  | _, _, _, _, .set _ _, _, ok => nomatch ok

theorem panesOf_relisted : ∀ {entries others : List (Value × Value)}
    {path : String} {panes : List Layout}, RelistedEntries entries others →
    (∀ entry ∈ entries, entry.1.isHashable = true) →
    EverywhereEntries IsListable entries →
    panesOf path entries = .ok panes → panesOf path others = .ok panes
  | _, _, _, _, .nil, _, _, ok => ok
  | _, _, _, _, .cons key value rest, areKeys, ⟨_, here, later⟩, ok => by
      obtain ⟨isKey, areKeysRest⟩ := List.forall_mem_cons.mp areKeys
      unfold panesOf at ok ⊢
      rw [← key.eq_of_isHashable isKey]
      split
      · next isPanes =>
        rw [if_pos isPanes] at ok
        exact childrenOf_relisted value here ok
      · next other =>
        rw [if_neg other] at ok
        exact panesOf_relisted rest areKeysRest later ok

theorem childrenOf_relisted : ∀ {value other : Value} {path : String}
    {panes : List Layout}, value.Relisted other →
    value.Everywhere IsListable → childrenOf path value = .ok panes →
    childrenOf path other = .ok panes
  | _, _, _, _, .refl _, _, ok => ok
  | _, _, _, _, .list relisted, ⟨_, inside⟩, ok =>
      nodes_relisted relisted inside ok
  | _, _, _, _, .tuple _, _, ok => ok
  | _, _, _, _, .set _ _, _, ok => ok
  | _, _, _, _, .mapping _, _, ok => ok

theorem nodes_relisted : ∀ {items others : List Value} {path : String}
    {index : Nat} {panes : List Layout}, RelistedList items others →
    EverywhereList IsListable items →
    nodes path index items = .ok panes → nodes path index others = .ok panes
  | _, _, _, _, _, .nil, _, ok => ok
  | _, _, _, _, _, .cons first rest, ⟨here, later⟩, ok => by
      obtain ⟨pane, paneOk, ok⟩ := exists_of_bind_eq_ok ok
      obtain ⟨panes, panesOk, made⟩ := exists_of_bind_eq_ok ok
      rw [nodes, node_relisted first here paneOk]
      change (do return pane :: (← nodes _ _ _)) = _
      rw [nodes_relisted rest later panesOk]
      exact made

end

/-! ### Presets -/

theorem layout_relisted {entries others : List (Value × Value)}
    (pairs : List.Forall₂ RelistedUnder entries others)
    (listable : EverywhereEntries IsListable entries)
    {tree : Option Layout} (ok : layout entries = .ok tree) :
    layout others = .ok tree := by
  have there := lookup_relisted pairs "layout"
  have layoutListable : ∀ value, lookup entries "layout" = some value →
      value.Everywhere IsListable :=
    fun value found => Everywhere.of_lookup listable found
  unfold layout at ok ⊢
  generalize lookup entries "layout" = content at there ok layoutListable
  generalize lookup others "layout" = other at there
  cases there with
  | none => exact ok
  | @some value other there =>
      have compiled (isNode : (node layoutPath value).map some = .ok tree) :
          (node layoutPath other).map some = .ok tree := by
        cases result : node layoutPath value with
        | error error =>
            rw [result] at isNode
            cases isNode
        | ok known =>
            rw [result] at isNode
            rw [node_relisted there (layoutListable _ rfl) result]
            exact isNode
      cases there with
      | refl => exact ok
      | _ => exact compiled ok

theorem compile_relisted {source : String} {value other : Value}
    {preset : Preset} (relisted : value.Relisted other)
    (listable : value.Everywhere IsListable)
    (ok : compile source value = .ok preset) :
    compile source other = .ok preset := by
  cases relisted with
  | refl => exact ok
  | mapping relisted =>
      have pairs := relisted.pairs listable.1
      obtain ⟨tree, treeOk, made⟩ := exists_of_bind_eq_ok ok
      have texts :=
        textField_of_keeps relisted_keepsShape (lookup_relisted pairs)
      rw [presetName, texts, texts, ← presetName] at made
      rw [compile, layout_relisted pairs listable.2 treeOk]
      exact made
  | _ => cases ok

end Compile

/-- Relisted documents are compiled to the same preset. -/
theorem Preset.ofValue_relisted {source : String} {value other : Value}
    {preset : Preset} (relisted : value.Relisted other)
    (listable : value.Everywhere IsListable)
    (ok : ofValue source value = .ok preset) :
    ofValue source other = .ok preset := by
  unfold ofValue at ok ⊢
  cases compiled : Compile.compile source value with
  | error error =>
      rw [compiled] at ok
      cases ok
  | ok made =>
      rw [compiled] at ok
      rw [Compile.compile_relisted relisted listable compiled]
      exact ok

end PaneLayout
