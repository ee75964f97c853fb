import PaneLayout.Proofs.Compile.Fields
import PaneLayout.Proofs.Compile.Keyed
import PaneLayout.Proofs.Compile.Limits
import PaneLayout.Proofs.Fault.Agree
import PaneLayout.Proofs.Json.Reordered
import PaneLayout.Proofs.Plan.Alike

/-!
# Compiling reordered presets

The compiler looks entries up by their keys, and of a set it knows only the
canonical form.  So reordered presets are compiled to the same layout, up to the
order of environments and options, or they have violations of one kind at one
place.
-/

namespace PaneLayout

open Value

theorem Value.reordered_keepsShape : KeepsShape Reordered := by
  intro value other reordered
  cases reordered with
  | refl =>
      cases value with
      | list items => exact .list (List.forall₂_same.mpr fun _ _ => .refl _)
      | _ => exact .same (by simp)
  | list reordered => exact .list reordered.forall₂
  | tuple _ => exact .tuple
  | set _ _ => exact .set
  | mapping _ _ _ => exact .mapping

namespace Compile

/-! ### Environments -/

/-- The assignments that an environment of fields consists of. -/
def assignments (fields : Entries Value) : Entries String :=
  fields.filterMap fun field => field.2.text?.map (Prod.mk field.1)

theorem assignments_sublist (fields : Entries Value) :
    (assignments fields).keys.Sublist fields.keys := by
  induction fields with
  | nil => exact .slnil
  | cons field fields induction =>
      unfold assignments
      rw [List.filterMap_cons]
      cases field.2.text? with
      | none => exact induction.cons _
      | some value => exact induction.cons_cons _

theorem filterMapM_assignment? (fields : Entries Value) :
    (textEntries id fields).filterMapM assignment? =
      .ok (assignments fields) := by
  induction fields with
  | nil => rfl
  | cons field fields induction =>
      obtain ⟨key, value⟩ := field
      change List.filterMapM assignment?
        ((.text key, value) :: textEntries id fields) = _
      rw [List.filterMapM_cons, induction]
      cases value <;> rfl

theorem environment_textEntries {fields : Entries Value}
    (unique : fields.keys.Nodup) :
    environment (some (.mapping (textEntries id fields))) =
      .ok (if (assignments fields).isEmpty then none
        else some (assignments fields)) := by
  have uniqueNamed := (assignments_sublist fields).nodup unique
  change ((textEntries id fields).filterMapM assignment? >>= fun named =>
    .ok (if named.isEmpty then none else some (Entries.ofList named))) = _
  rw [filterMapM_assignment?]
  change Except.ok (if (assignments fields).isEmpty then none
    else some (Entries.ofList (assignments fields))) = _
  rw [Entries.ofList_of_nodup uniqueNamed]

theorem assignments_perm {fields others : Entries Value}
    (matched : fields.Matched Reordered others) (unique : fields.keys.Nodup)
    (otherUnique : others.keys.Nodup) :
    (assignments fields).Perm (assignments others) := by
  obtain ⟨arranged, perm, pairs⟩ := matched.exists_pairs unique otherUnique
  have same : assignments arranged = assignments others := by
    clear perm matched otherUnique
    induction pairs with
    | nil => rfl
    | cons pair _ induction =>
        unfold assignments at induction ⊢
        rw [List.filterMap_cons, List.filterMap_cons, pair.1,
          (reordered_keepsShape pair.2).text?_eq, induction]
  exact same ▸ perm.filterMap _

theorem environment_reordered {content other : Option Value}
    (there : Option.Rel Reordered content other)
    {env otherEnv : Option (Entries String)}
    (ok : environment content = .ok env)
    (otherOk : environment other = .ok otherEnv) :
    Option.Rel List.Perm env otherEnv := by
  cases there with
  | none =>
      cases ok
      cases otherOk
      exact .none
  | some reordered =>
      cases reordered with
      | refl =>
          cases ok.symm.trans otherOk
          cases env with
          | none => exact .none
          | some env => exact .some (.refl env)
      | mapping keyed perm reordered =>
          obtain ⟨_, _, rfl, rfl, unique, otherUnique, matched⟩ :=
            exists_matched keyed perm reordered.forall₂
          have named := assignments_perm matched unique otherUnique
          rw [environment_textEntries unique] at ok
          rw [environment_textEntries otherUnique,
            ← named.isEmpty_eq] at otherOk
          cases ok
          cases otherOk
          split
          · exact .none
          · exact .some named
      | _ =>
          cases ok
          cases otherOk
          exact .none

/-! ### Options -/

theorem unused_reordered {entries others : List (Value × Value)}
    (reordered : (Value.mapping entries).Reordered (.mapping others)) :
    (Value.mapping (entries.filter fun entry =>
      !isTerminalKey entry.1)).Reordered
      (.mapping (others.filter fun entry => !isTerminalKey entry.1)) := by
  have unused (fields : Entries Value) :
      (textEntries id fields).filter (fun entry => !isTerminalKey entry.1) =
        textEntries id
          (fields.filter fun field => !terminalKeys.contains field.1) :=
    List.filter_map
  have uniqueUnused {fields : Entries Value} (unique : fields.keys.Nodup) :
      (Entries.keys (fields.filter fun field =>
        !terminalKeys.contains field.1)).Nodup :=
    (List.filter_sublist.map _).nodup unique
  cases reordered with
  | refl => exact .refl _
  | mapping keyed perm reordered =>
      obtain ⟨fields, otherFields, rfl, rfl, unique, otherUnique, matched⟩ :=
        exists_matched keyed perm reordered.forall₂
      rw [unused, unused]
      exact reordered_of_matched
        (matched.filter fun key => !terminalKeys.contains key)
        (uniqueUnused unique) (uniqueUnused otherUnique)

/-- The members that reordered mappings become match, unless surrogates make
pairs in them. -/
theorem canonical_matched {entries others : List (Value × Value)}
    {json otherJson : Json}
    (reordered : (Value.mapping entries).Reordered (.mapping others))
    (ok : (Value.mapping entries).canonical = .ok json)
    (otherOk : (Value.mapping others).canonical = .ok otherJson) :
    (memberValues json).Matched UnpairedAlike (memberValues otherJson) := by
  have unique := (memberValues_isKeyed (hasDistinctKeys_canonical ok)).unique
  have otherUnique :=
    (memberValues_isKeyed (hasDistinctKeys_canonical otherOk)).unique
  cases reordered with
  | refl =>
      cases ok.symm.trans otherOk
      exact Entries.matched_of_pairs
        (List.forall₂_same.mpr fun _ _ => ⟨rfl, unpairedAlike_refl _⟩)
  | mapping keyed perm reordered =>
      obtain ⟨members, converted, made⟩ := exists_of_bind_eq_ok ok
      obtain ⟨otherMembers, otherConverted, otherMade⟩ :=
        exists_of_bind_eq_ok otherOk
      cases made
      cases otherMade
      obtain ⟨same, otherSame, arranged, otherArranged, isPerm, otherIsPerm,
        pairs⟩ := exists_members_alike keyed perm
          (canonicalAlike_of_reorderedEntries reordered) converted
          otherConverted
      rw [same] at unique ⊢
      rw [otherSame] at otherUnique ⊢
      refine Entries.matched_of_perm unique otherUnique (isPerm.map _)
        (otherIsPerm.map _) ?_
      rw [List.forall₂_map_left_iff, List.forall₂_map_right_iff]
      exact pairs

/-- Options whose records are alike unless surrogates make pairs in them. -/
abbrev OptionsAlike (fields others : Option (Entries Value)) : Prop :=
  Option.Rel (fun fields others =>
    (Value.record fields).UnpairedAlike (.record others)) fields others

theorem merged_alike {merged otherMerged : Entries Value}
    (matched : merged.Matched UnpairedAlike otherMerged)
    (unique : merged.keys.Nodup) (otherUnique : otherMerged.keys.Nodup) :
    OptionsAlike (if merged.isEmpty then none else some merged)
      (if otherMerged.isEmpty then none else some otherMerged) := by
  rw [matched.isEmpty]
  split
  · exact .none
  · exact .some (unpairedAlike_of_matched matched unique otherUnique)

theorem options_reordered {entries others : List (Value × Value)}
    (reordered : (Value.mapping entries).Reordered (.mapping others))
    {fields otherFields : Option (Entries Value)}
    (ok : options entries = .ok fields)
    (otherOk : options others = .ok otherFields) :
    OptionsAlike fields otherFields := by
  obtain ⟨json, converted, ok⟩ := exists_of_bind_eq_ok ok
  obtain ⟨otherJson, otherConverted, otherOk⟩ := exists_of_bind_eq_ok otherOk
  have overlay :=
    canonical_matched (unused_reordered reordered) converted otherConverted
  have keyed := memberValues_isKeyed (hasDistinctKeys_canonical converted)
  have otherKeyed :=
    memberValues_isKeyed (hasDistinctKeys_canonical otherConverted)
  have there := reordered.lookup "options"
  dsimp only at ok otherOk
  generalize lookup entries "options" = content at there ok
  generalize lookup others "options" = other at there otherOk
  cases there with
  | none =>
      cases ok
      cases otherOk
      exact merged_alike overlay keyed.unique otherKeyed.unique
  | @some value other there =>
      cases value with
      | mapping explicit =>
          cases other with
          | mapping otherExplicit =>
              obtain ⟨base, baseConverted, made⟩ := exists_of_bind_eq_ok ok
              obtain ⟨otherBase, otherBaseConverted, otherMade⟩ :=
                exists_of_bind_eq_ok otherOk
              cases made
              cases otherMade
              have bases :=
                canonical_matched there baseConverted otherBaseConverted
              have baseKeyed :=
                memberValues_isKeyed (hasDistinctKeys_canonical baseConverted)
              have otherBaseKeyed := memberValues_isKeyed
                (hasDistinctKeys_canonical otherBaseConverted)
              exact merged_alike
                (bases.putAll overlay keyed.unique otherKeyed.unique)
                (baseKeyed.putAll keyed).unique
                (otherBaseKeyed.putAll otherKeyed).unique
          | _ => cases there
      | _ =>
          cases there <;> cases ok <;> cases otherOk <;>
            exact merged_alike overlay keyed.unique otherKeyed.unique

/-! ### Terminals -/

theorem terminal_reordered {entries others : List (Value × Value)}
    (reordered : (Value.mapping entries).Reordered (.mapping others))
    {leaf other : Terminal} (ok : terminal entries = .ok leaf)
    (otherOk : terminal others = .ok other) : leaf.AlikeBy UnpairedAlike other := by
  obtain ⟨env, envOk, ok⟩ := exists_of_bind_eq_ok ok
  obtain ⟨milliseconds, delayOk, ok⟩ := exists_of_bind_eq_ok ok
  obtain ⟨merged, optionsOk, made⟩ := exists_of_bind_eq_ok ok
  obtain ⟨otherEnv, otherEnvOk, otherOk⟩ := exists_of_bind_eq_ok otherOk
  obtain ⟨otherMilliseconds, otherDelayOk, otherOk⟩ :=
    exists_of_bind_eq_ok otherOk
  obtain ⟨otherMerged, otherOptionsOk, otherMade⟩ :=
    exists_of_bind_eq_ok otherOk
  have texts := textField_of_keeps reordered_keepsShape reordered.lookup
  have flags := flagField_of_keeps reordered_keepsShape reordered.lookup
  rw [delay_of_keeps reordered_keepsShape (reordered.lookup "delay"),
    otherDelayOk] at delayOk
  cases delayOk
  cases made
  cases otherMade
  refine ⟨?_, environment_reordered (reordered.lookup "env") envOk otherEnvOk,
    options_reordered reordered optionsOk otherOptionsOk⟩
  simp only [texts, flags]

end Compile

/-! ### Layouts -/

theorem Terminal.alike_refl (leaf : Terminal) :
    leaf.AlikeBy UnpairedAlike leaf := by
  refine ⟨rfl, ?_, ?_⟩
  · cases leaf.env with
    | none => exact .none
    | some env => exact .some (.refl env)
  · cases leaf.options with
    | none => exact .none
    | some fields => exact .some (unpairedAlike_refl _)

namespace Layout

mutual

/-- The layouts are equal up to the order of mappings of terminals, except for
options in which surrogates make pairs. -/
inductive Alike : Layout → Layout → Prop where
  | terminal {leaf other : Terminal} :
      leaf.AlikeBy UnpairedAlike other → Alike (.terminal leaf) (.terminal other)
  | split {orientation : Orientation} {ratio : Ratio}
        {panes others : List Layout} :
      AlikeList panes others →
      Alike (.split orientation ratio panes) (.split orientation ratio others)

inductive AlikeList : List Layout → List Layout → Prop where
  | nil : AlikeList [] []
  | cons {pane other : Layout} {panes others : List Layout} :
      Alike pane other → AlikeList panes others →
      AlikeList (pane :: panes) (other :: others)

end

mutual

theorem Alike.refl : ∀ layout : Layout, layout.Alike layout
  | .terminal leaf => .terminal leaf.alike_refl
  | .split _ _ panes => .split (AlikeList.refl panes)

theorem AlikeList.refl : ∀ panes : List Layout, AlikeList panes panes
  | [] => .nil
  | pane :: panes => .cons (.refl pane) (.refl panes)

end

end Layout

namespace Compile

/-- The violations are of one kind and at one place. -/
inductive SameViolation : Error → Error → Prop where
  | violation {what other : Violation} (path : String) :
      what.code = other.code →
      SameViolation (.violation what path) (.violation other path)

section Agree

variable {α β : Type}

theorem agree_refl {values : α → α → Prop}
    (related : ∀ value, values value value) (result : Except Error α) :
    Agree SameViolation values result result := by
  cases result with
  | ok value => exact .ok (related value)
  | error error =>
      cases error with
      | violation what path => exact .error (.violation path rfl)
      | fault cause => exact .fault _ rfl

/-- Operations that fail only by faults agree if their values are related. -/
theorem agree_lift {values : α → β → Prop} {result : Except Fault α}
    {other : Except Fault β}
    (related : ∀ value otherValue, result = .ok value →
      other = .ok otherValue → values value otherValue) :
    Agree SameViolation values
      (MonadLift.monadLift result : Except Error α)
      (MonadLift.monadLift other : Except Error β) := by
  cases result with
  | error cause => exact .fault _ rfl
  | ok value =>
      cases other with
      | error cause => exact .otherFault _ rfl
      | ok otherValue => exact .ok (related _ _ rfl rfl)

end Agree

theorem ratioEntries_reordered {path : String} {index : Nat}
    {raw others : List Value} (reordered : List.Forall₂ Reordered raw others) :
    Agree SameViolation Eq (ratioEntries path index raw)
      (ratioEntries path index others) := by
  induction reordered generalizing index with
  | nil => exact .ok rfl
  | @cons first other rest others isReordered _ induction =>
      unfold ratioEntries
      rw [RatioEntry.parse_of_keeps reordered_keepsShape isReordered]
      cases RatioEntry.parse other with
      | error cause => exact .fault _ rfl
      | ok parsed =>
          cases parsed with
          | none => exact .error (.violation _ rfl)
          | some entry =>
              exact induction.bind fun ratio otherRatio same =>
                .ok (congrArg _ same)

theorem splitHeader_reordered {path typeName : String}
    {entries others : List (Value × Value)}
    (reordered : (Value.mapping entries).Reordered (.mapping others)) :
    Agree SameViolation Eq (splitHeader path typeName entries)
      (splitHeader path typeName others) := by
  have itemsFields :=
    itemsField_of_keeps reordered_keepsShape reordered.lookup
  have items := itemsFields "panes"
  have ratios := itemsFields "ratio"
  unfold splitHeader
  generalize itemsField entries "panes" = panes at items
  generalize itemsField others "panes" = otherPanes at items
  generalize itemsField entries "ratio" = raw at ratios
  generalize itemsField others "ratio" = otherRaw at ratios
  cases Orientation.ofName? typeName with
  | none => exact .error (.violation _ rfl)
  | some orientation =>
      cases items with
      | none => exact .error (.violation _ rfl)
      | some items =>
          cases ratios with
          | none => exact .error (.violation _ rfl)
          | some ratios =>
              simp only [pure_bind]
              rw [items.length_eq, ratios.length_eq]
              split
              · exact .error (.violation _ rfl)
              · exact (ratioEntries_reordered ratios).bind
                  fun ratio otherRatio same =>
                    .ok (congrArg (SplitHeader.mk orientation) same)

/-- What the key `panes` of a record holds is compiled as children. -/
theorem panesOf_eq (path : String) (entries : List (Value × Value)) :
    panesOf path entries = match lookup entries "panes" with
      | some value => childrenOf path value
      | none => return [] := by
  induction entries with
  | nil => rw [panesOf]; rfl
  | cons entry entries induction =>
      obtain ⟨key, value⟩ := entry
      rw [panesOf, lookup_cons, induction]
      split <;> rfl

theorem mapping_reordered {path : String}
    {entries others : List (Value × Value)}
    (reordered : (Value.mapping entries).Reordered (.mapping others))
    (panes : Agree SameViolation Layout.AlikeList (panesOf path entries)
      (panesOf path others)) :
    Agree SameViolation Layout.Alike (node path (.mapping entries))
      (node path (.mapping others)) := by
  unfold node
  rw [nodeKind_of_keeps reordered_keepsShape reordered.lookup]
  cases nodeKind others with
  | split typeName =>
      refine (splitHeader_reordered reordered).bind ?_
      rintro header _ rfl
      exact panes.bind fun _ _ alike => .ok (.split alike)
  | terminal =>
      refine (agree_lift fun leaf other ok otherOk =>
        terminal_reordered reordered ok otherOk).bind ?_
      exact fun _ _ alike => .ok (.terminal alike)
  | neither => exact .error (.violation path rfl)

theorem panesOf_reordered {path : String}
    {entries others : List (Value × Value)}
    (there : Option.Rel (fun value other => Agree SameViolation
      Layout.AlikeList (childrenOf path value) (childrenOf path other))
      (lookup entries "panes") (lookup others "panes")) :
    Agree SameViolation Layout.AlikeList (panesOf path entries)
      (panesOf path others) := by
  rw [panesOf_eq, panesOf_eq]
  generalize lookup entries "panes" = content at there
  generalize lookup others "panes" = other at there
  cases there with
  | none => exact .ok .nil
  | some agree => exact agree

mutual

/-- Reordered nodes are compiled to alike layouts, or both are violations. -/
theorem node_reordered : ∀ {value other : Value}, value.Reordered other →
    ∀ path, Agree SameViolation Layout.Alike (node path value)
      (node path other)
  | _, _, .refl _, _ => agree_refl Layout.Alike.refl _
  | _, _, .list _, path => .error (.violation path rfl)
  | _, _, .tuple _, path => .error (.violation path rfl)
  | _, _, .set _ _, path => .error (.violation path rfl)
  | _, _, .mapping keyed perm reordered, path =>
      mapping_reordered (.mapping keyed perm reordered) (panesOf_reordered
        (lookup_of_pairs keyed perm (panes_reordered reordered path) "panes"))

theorem childrenOf_reordered : ∀ {value other : Value},
    value.Reordered other → ∀ path, Agree SameViolation Layout.AlikeList
      (childrenOf path value) (childrenOf path other)
  | _, _, .refl _, _ => agree_refl Layout.AlikeList.refl _
  | _, _, .list reordered, path => nodes_reordered reordered path 0
  | _, _, .tuple _, _ => .ok .nil
  | _, _, .set _ _, _ => .ok .nil
  | _, _, .mapping _ _ _, _ => .ok .nil

theorem nodes_reordered : ∀ {items others : List Value},
    ReorderedList items others → ∀ path index,
    Agree SameViolation Layout.AlikeList (nodes path index items)
      (nodes path index others)
  | _, _, .nil, _, _ => .ok .nil
  | _, _, .cons first rest, path, index => by
      unfold nodes
      exact (node_reordered first (childPath path index)).bind
        fun pane otherPane alike =>
          (nodes_reordered rest path (index + 1)).bind
            fun panes otherPanes areAlike => .ok (.cons alike areAlike)

theorem panes_reordered : ∀ {entries others : List (Value × Value)},
    ReorderedEntries entries others → ∀ path,
    List.Forall₂ (fun entry other => entry.1 = other.1 ∧
      Agree SameViolation Layout.AlikeList (childrenOf path entry.2)
        (childrenOf path other.2)) entries others
  | _, _, .nil, _ => .nil
  | _, _, .cons first rest, path =>
      .cons ⟨rfl, childrenOf_reordered first path⟩ (panes_reordered rest path)

end

end Compile

/-! ### Presets -/

/-- The presets are equal up to their labels and the order of mappings of
terminals, except for options in which surrogates make pairs. -/
structure Preset.Alike (preset other : Preset) : Prop where
  name : preset.name = other.name
  command : preset.command = other.command
  layout : Option.Rel Layout.Alike preset.layout other.layout

namespace Compile

theorem layout_reordered {entries others : List (Value × Value)}
    (reordered : (Value.mapping entries).Reordered (.mapping others)) :
    Agree SameViolation (Option.Rel Layout.Alike) (layout entries)
      (layout others) := by
  have there := reordered.lookup "layout"
  unfold layout
  generalize lookup entries "layout" = content at there
  generalize lookup others "layout" = other at there
  cases there with
  | none => exact .ok .none
  | @some value other there =>
      have nodes : Agree SameViolation (Option.Rel Layout.Alike)
          ((node layoutPath value).map some)
          ((node layoutPath other).map some) :=
        (node_reordered there layoutPath).map fun _ _ alike => .some alike
      cases there with
      | refl value =>
          cases value with
          | null => exact .ok .none
          | _ => exact nodes
      | _ => exact nodes

/-- Reordered documents are compiled to alike presets, or both have a violation
of one kind at one place. -/
theorem compile_reordered {value other : Value}
    (reordered : value.Reordered other) (source otherSource : String) :
    Agree SameViolation Preset.Alike (compile source value)
      (compile otherSource other) := by
  cases value with
  | mapping entries =>
      cases other with
      | mapping others =>
          have texts := textField_of_keeps reordered_keepsShape reordered.lookup
          have names : presetName entries = presetName others := by
            rw [presetName, presetName, texts]
          exact (layout_reordered reordered).bind fun layout other alike =>
            .ok ⟨names, texts "command", alike⟩
      | _ => cases reordered
  | _ => cases reordered <;> exact .error (.violation "preset" rfl)

end Compile

end PaneLayout
