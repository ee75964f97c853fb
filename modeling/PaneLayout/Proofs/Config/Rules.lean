import Mathlib.Data.Set.List
import PaneLayout.Config.Load
import PaneLayout.Proofs.Entries
import PaneLayout.Proofs.Value.Keys

/-!
# Rules of a validation

A validation of configurations has rules: which values it reads as texts and as
settings, and how it leads to a key in the path to an issue.  The rules say what
configuration entries describe, and which of their parts are faulty.  A
validation obeys them if it accepts what has no faulty part, and otherwise has
an issue in every faulty part and nowhere else.
-/

namespace PaneLayout

/-- The step to the preset at which an issue lies leads to a key. -/
def Issue.pointsAt (issue : Issue) (key : Value) : Bool :=
  match issue.path with
  | .name "presets" :: step :: _ => step.leadsTo key
  | _ => false

namespace Config

open Value

/-- How a validation reads values, and how it leads to keys. -/
structure Rules where
  /-- The text that a value is read as. -/
  text : Value → Option String
  /-- The settings that a value is read as. -/
  settings : Value → Option Defaults
  /-- The step to a key in the path to an issue. -/
  step : Value → IssueStep
  text_text (name : String) : text (.text name) = some name
  step_text (name : String) : step (.text name) = .name name
  step_int {number : Int} :
    -0x8000000000000000 ≤ number ∧ number < 0x8000000000000000 →
      step (.int number) = .number number
  /-- Any other key is shown by a text, or by a number that is equal to it. -/
  agrees_of_step {key : Value} {number : Int} :
    step key = .number number → key.agrees (.int number) = true

namespace Rules

variable (rules : Rules)

/-! ### What entries describe -/

/-- An entry whose key is read as a text. -/
def entry {α : Type} (read : Value → Option α) (given : Value × Value) :
    Option (String × α) := do
  return (← rules.text given.1, ← read given.2)

/-- Entries of which each can be read. -/
def entries {α : Type} (read : Value → Option α)
    (given : List (Value × Value)) : Option (Entries α) :=
  if given.all fun entry => (rules.entry read entry).isSome then
    some (Entries.ofList (given.filterMap (rules.entry read)))
  else
    none

/-- Entries with texts as keys. -/
def textKeyed (known : Entries Value) : List (Value × Value) :=
  known.map fun entry => (.text entry.1, entry.2)

/-- A preset, whose values may be anything. -/
def preset : Value → Option (List (Value × Value))
  | .mapping given => (rules.entries some given).map textKeyed
  | _ => none

/-- All presets of a configuration. -/
def presets : Value → Option (Entries (List (Value × Value)))
  | .mapping given => rules.entries rules.preset given
  | _ => none

/-- A part of a configuration, which may be missing. -/
def part {α : Type} (read : Value → Option α) (missing : α)
    (entries : List (Value × Value)) (key : String) : Option α :=
  match lookup entries key with
  | none => some missing
  | some value => read value

/-- The configuration that entries describe. -/
def config (entries : List (Value × Value)) : Option Config := do
  return ⟨← part rules.settings {} entries "defaults",
    ← part rules.presets [] entries "presets"⟩

/-- A preset that can be read under its key. -/
def IsSound (preset : Value × Value) : Prop :=
  (rules.entry rules.preset preset).isSome

/-- The places of what cannot be read. -/
inductive Faulty (entries : List (Value × Value)) : List IssueStep → Prop where
  | settings {value : Value} :
      lookup entries "defaults" = some value → rules.settings value = none →
      Faulty entries [.name "defaults"]
  | presets {value : Value} :
      lookup entries "presets" = some value →
      (∀ presets, value ≠ .mapping presets) →
      Faulty entries [.name "presets"]
  | preset {presets : List (Value × Value)} {preset : Value × Value} :
      lookup entries "presets" = some (.mapping presets) →
      preset ∈ presets → ¬ rules.IsSound preset →
      Faulty entries [.name "presets", rules.step preset.1]

/-- There are issues in all faulty places, and in no others. -/
structure IsReport (entries : List (Value × Value)) (issues : List Issue) :
    Prop where
  faulty : ∀ issue ∈ issues,
    ∃ place rest, rules.Faulty entries place ∧ issue.path = place ++ rest
  reported : ∀ place, rules.Faulty entries place →
    ∃ issue ∈ issues, ∃ rest, issue.path = place ++ rest

end Rules

/-- The mappings that a reader makes have distinct keys, and its validation
follows rules. -/
structure Reader.Obeys (reader : Reader) (rules : Rules) : Prop where
  distinct {text : String} {value : Value} :
    reader.document text = .ok value → value.Everywhere HasDistinctKeys
  accepts {entries : List (Value × Value)} {config : Config} :
    reader.validate entries = .ok config ↔ rules.config entries = some config
  reports {entries : List (Value × Value)} {issues : List Issue} :
    reader.validate entries = .error issues → rules.IsReport entries issues

/-! ### Presets without faults -/

namespace Rules

variable {rules : Rules}

variable {α : Type} {read : Value → Option α} {given : List (Value × Value)}

theorem entry_eq_some_iff {entry : Value × Value} {key : String} {value : α} :
    rules.entry read entry = some (key, value) ↔
      rules.text entry.1 = some key ∧ read entry.2 = some value := by
  unfold Rules.entry
  cases rules.text entry.1 <;> cases read entry.2 <;> simp

theorem entries_isSome_iff : (rules.entries read given).isSome ↔
    ∀ entry ∈ given, (rules.entry read entry).isSome := by
  rw [Rules.entries, Option.isSome_ite, List.all_eq_true]

theorem entries_of_forall
    (sound : ∀ entry ∈ given, (rules.entry read entry).isSome) :
    rules.entries read given =
      some (Entries.ofList (given.filterMap (rules.entry read))) :=
  if_pos (List.all_eq_true.mpr sound)

theorem presets_of_other {value : Value}
    (other : ∀ presets, value ≠ .mapping presets) :
    rules.presets value = none := by
  unfold Rules.presets
  split
  · exact absurd rfl (other _)
  · rfl

theorem part_of_lookup {missing : α} {entries : List (Value × Value)}
    {key : String} {value : Value} (found : lookup entries key = some value) :
    part read missing entries key = read value := by
  rw [part, found]

/-- A preset whose keys are texts is read as it is. -/
theorem preset_of_textKeys (distinct : DistinctKeys given)
    (textKeys : ∀ entry ∈ given, ∃ name, entry.1 = .text name) :
    rules.preset (.mapping given) = some given := by
  let back : String × Value → Value × Value := fun entry =>
    (.text entry.1, entry.2)
  obtain ⟨known, rfl⟩ : ∃ known, List.map back known = given :=
    (Set.range_list_map back).ge fun entry member => by
      obtain ⟨name, isName⟩ := textKeys entry member
      exact ⟨(name, entry.2), Prod.ext isName.symm rfl⟩
  have same : rules.entry some ∘ back = some := by
    funext entry
    exact entry_eq_some_iff.mpr ⟨rules.text_text entry.1, rfl⟩
  have unique : (Entries.keys known).Nodup := by
    rw [Entries.keys, List.nodup_iff_pairwise_ne, List.pairwise_map]
    refine (List.pairwise_map.mp distinct).imp fun differ equal => ?_
    simp [back, agrees_text, isText, equal] at differ
  have sound : ∀ entry ∈ known.map back, (rules.entry some entry).isSome :=
    List.forall_mem_map.mpr fun entry _ =>
      congrArg Option.isSome (congrFun same entry)
  rw [Rules.preset, entries_of_forall sound, List.filterMap_map, same,
    List.filterMap_some, Entries.ofList_of_nodup unique]
  rfl

end Rules

end Config

end PaneLayout
