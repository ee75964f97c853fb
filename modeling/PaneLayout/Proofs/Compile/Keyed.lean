import PaneLayout.Proofs.Compile.Derivation
import PaneLayout.Proofs.Json.Exact
import PaneLayout.Proofs.Plan.Prepared

/-!
# Distinct keys of compiled terminals

Whatever keys a document has, the environment and the options of a terminal are
made entry by entry, and so are the mappings inside the options.  So no key
stands there twice.
-/

namespace PaneLayout

open Value

/-! ### Terminals -/

/-- The fields of a record have different keys, and so has everything in it. -/
structure Entries.IsKeyed (fields : Entries Value) : Prop where
  unique : fields.keys.Nodup
  isJson : ∀ field ∈ fields, field.2.Everywhere IsJson
  distinct : ∀ field ∈ fields, field.2.Everywhere HasDistinctKeys

theorem Entries.IsKeyed.putAll {known additions : Entries Value}
    (isKeyed : known.IsKeyed) (added : additions.IsKeyed) :
    (known.putAll additions).IsKeyed where
  unique := keys_nodup_putAll isKeyed.unique
  isJson := forall_putAll isKeyed.isJson added.isJson
  distinct := forall_putAll isKeyed.distinct added.distinct

/-- The environment and the options of a terminal have no key twice. -/
structure Terminal.IsKeyed (leaf : Terminal) : Prop where
  env : ∀ env, leaf.env = some env → env.keys.Nodup
  options : ∀ fields, leaf.options = some fields → fields.IsKeyed

namespace Compile

theorem memberValues_isKeyed {json : Json}
    (distinct : json.toValue.Everywhere HasDistinctKeys) :
    (memberValues json).IsKeyed := by
  cases json with
  | object members =>
      have unique := Json.hasDistinctKeys_object.mp distinct.here
      rw [Json.toValue, Json.toValueMembers_eq] at distinct
      constructor
      · rwa [memberValues, Entries.keys, List.map_map]
      · exact List.forall_mem_map.mpr fun member _ =>
          Json.toValue_isJson member.2
      · refine List.forall_mem_map.mpr fun member isMember => ?_
        exact (everywhereEntries_iff.mp distinct.2 _
          (List.mem_map_of_mem isMember)).2
  | _ => exact ⟨List.nodup_nil, List.forall_mem_nil _, List.forall_mem_nil _⟩

theorem options_isKeyed {entries : List (Value × Value)}
    {fields : Entries Value} (ok : options entries = .ok (some fields)) :
    fields.IsKeyed := by
  obtain ⟨json, converted, ok⟩ := exists_of_bind_eq_ok ok
  have overlay := memberValues_isKeyed (hasDistinctKeys_canonical converted)
  dsimp only at ok
  split at ok
  · obtain ⟨base, baseConverted, made⟩ := exists_of_bind_eq_ok ok
    obtain ⟨_, isMerged⟩ :=
      Option.ite_none_left_eq_some.mp (Except.ok.inj made)
    cases isMerged
    exact (memberValues_isKeyed
      (hasDistinctKeys_canonical baseConverted)).putAll overlay
  · obtain ⟨_, isMerged⟩ := Option.ite_none_left_eq_some.mp (Except.ok.inj ok)
    cases isMerged
    exact overlay

theorem environment_nodup {value : Option Value} {env : Entries String}
    (ok : environment value = .ok (some env)) : env.keys.Nodup := by
  unfold environment at ok
  split at ok
  · obtain ⟨named, _, made⟩ := exists_of_bind_eq_ok ok
    obtain ⟨_, isMade⟩ := Option.ite_none_left_eq_some.mp (Except.ok.inj made)
    cases isMade
    exact Entries.keys_nodup_ofList named
  · cases ok

theorem terminal_isKeyed {entries : List (Value × Value)} {leaf : Terminal}
    (ok : terminal entries = .ok leaf) : leaf.IsKeyed := by
  obtain ⟨env, envOk, ok⟩ := exists_of_bind_eq_ok ok
  obtain ⟨delay, _, ok⟩ := exists_of_bind_eq_ok ok
  obtain ⟨fields, optionsOk, made⟩ := exists_of_bind_eq_ok ok
  cases made
  constructor
  · rintro some rfl
    exact environment_nodup envOk
  · rintro some rfl
    exact options_isKeyed optionsOk

mutual

theorem Compiles.isKeyed : ∀ {path : String} {value : Value}
    {layout : Layout}, Compiles path value layout →
    ∀ leaf ∈ layout.terminals, leaf.IsKeyed
  | _, _, _, .split _ _ _ _ children => children.isKeyed
  | _, _, _, .terminal _ leafOk =>
      List.forall_mem_singleton.mpr (terminal_isKeyed leafOk)

theorem CompilesAll.isKeyed : ∀ {path : String} {index : Nat}
    {items : List Value} {panes : List Layout},
    CompilesAll path index items panes →
    ∀ leaf ∈ Layout.terminalsList panes, leaf.IsKeyed
  | _, _, _, _, .nil => List.forall_mem_nil _
  | _, _, _, _, .cons first rest =>
      List.forall_mem_append.mpr ⟨first.isKeyed, rest.isKeyed⟩

end

end Compile

theorem Preset.builtLayout_isKeyed {source : String} {value : Value}
    {preset : Preset} (ok : ofValue source value = .ok preset) :
    ∀ leaf ∈ preset.builtLayout.terminals, leaf.IsKeyed := by
  obtain ⟨entries, rfl, layoutOk⟩ := layout_ofValue ok
  unfold builtLayout
  cases hasLayout : preset.layout with
  | none => exact List.forall_mem_singleton.mpr ⟨nofun, nofun⟩
  | some layout =>
      rw [hasLayout] at layoutOk
      obtain ⟨_, _, compiles⟩ := Compile.compiles_of_layout layoutOk
      exact compiles.isKeyed

end PaneLayout
