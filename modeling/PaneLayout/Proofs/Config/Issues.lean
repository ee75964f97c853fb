import PaneLayout.Proofs.Config.Rules
import PaneLayout.Proofs.Yaml.Keyed

/-!
# Issues of a configuration

Checking a configuration finds issues exactly in the parts that are not what
they should be, and reads the rest as it stands.  So the reader that the commands
use obeys rules: text is text or bytes in UTF-8, and a step shows a key.
-/

namespace PaneLayout

namespace Checked

variable {α : Type}

/-- The result, if there are no issues. -/
def value? (checked : Checked α) : Option α :=
  if checked.issues = [] then some checked.result else none

theorem value?_isSome_iff {checked : Checked α} :
    checked.value?.isSome ↔ checked.issues = [] := by
  rw [value?, Option.isSome_ite]

theorem value?_of_issues_eq_nil {checked : Checked α}
    (none : checked.issues = []) : checked.value? = some checked.result :=
  if_pos none

theorem value?_mk_map {β : Type} (change : α → β) (checked : Checked α) :
    (⟨change checked.result, checked.issues⟩ : Checked β).value? =
      checked.value?.map change := by
  unfold value?
  by_cases none : checked.issues = [] <;> simp [none]

theorem value?_under {step : IssueStep} {checked : Checked α} :
    (checked.under step).value? = checked.value? := by
  simp only [value?, under, List.map_eq_nil_iff]

theorem path_of_mem_under {step : IssueStep} {checked : Checked α}
    {issue : Issue} (found : issue ∈ (checked.under step).issues) :
    ∃ rest, issue.path = step :: rest := by
  obtain ⟨inner, _, rfl⟩ := List.mem_map.mp found
  exact ⟨inner.path, rfl⟩

theorem value?_eq_none_iff {checked : Checked α} :
    checked.value? = none ↔ ∃ issue, issue ∈ checked.issues := by
  rw [← Option.not_isSome_iff_eq_none, value?_isSome_iff]
  exact ⟨List.exists_mem_of_ne_nil _, fun ⟨_, isIssue⟩ =>
    List.ne_nil_of_mem isIssue⟩

end Checked

namespace Config

open Value

/-! ### The rules of the check -/

theorem agrees_of_ofKey {key : Value} {number : Int}
    (isStep : IssueStep.ofKey key = .number number) :
    key.agrees (.int number) = true := by
  rw [agrees_int_iff]
  cases key with
  | bool value =>
      cases isStep
      cases value <;> rfl
  | int value =>
      simp only [IssueStep.ofKey] at isStep
      split at isStep
      · cases isStep
        rfl
      · split at isStep <;> cases isStep
  | text value => cases isStep
  | _ =>
      simp only [IssueStep.ofKey] at isStep
      split at isStep <;> cases isStep

/-- The rules by which configurations are checked. -/
def Rules.standard : Rules where
  text value := (checkText value).value?
  settings value := (checkDefaults value).value?
  step := IssueStep.ofKey
  text_text _ := rfl
  step_text _ := rfl
  step_int inRange := by simp only [IssueStep.ofKey, if_pos inRange]
  agrees_of_step := agrees_of_ofKey

section CheckEntries

variable {α : Type} {check : Value → Checked α} {read : Value → Option α}

/-- The check of an entry: that of its key, and then that of its value. -/
def checkEntry (check : Value → Checked α) (entry : Value × Value) :
    Checked (String × α) :=
  let name := (checkText entry.1).under .key
  let value := check entry.2
  (⟨(name.result, value.result), name.issues ++ value.issues⟩ :
    Checked (String × α)).under (.ofKey entry.1)

theorem checkEntries_eq (entries : List (Value × Value)) :
    checkEntries check entries =
      ⟨entries.map fun entry => (checkEntry check entry).result,
        entries.flatMap fun entry => (checkEntry check entry).issues⟩ := by
  induction entries with
  | nil => rfl
  | cons entry entries induction =>
      simp [checkEntries, induction, checkEntry, Checked.under]

theorem checkEntry_value? (reads : ∀ value, (check value).value? = read value)
    (entry : Value × Value) :
    (checkEntry check entry).value? = Rules.standard.entry read entry := by
  have ofKey : ((checkText entry.1).under .key).value? =
      (checkText entry.1).value? := Checked.value?_under
  rw [checkEntry, Checked.value?_under, Rules.entry, ← reads]
  change _ = ((checkText entry.1).value? >>= _)
  rw [← ofKey]
  unfold Checked.value?
  simp only [List.append_eq_nil_iff]
  by_cases keyIssues : ((checkText entry.1).under .key).issues = [] <;>
    by_cases issues : (check entry.2).issues = [] <;>
    simp [keyIssues, issues]

theorem checkEntries_issues_eq_nil_iff {entries : List (Value × Value)} :
    (checkEntries check entries).issues = [] ↔
      ∀ entry ∈ entries, (checkEntry check entry).value?.isSome := by
  simp only [checkEntries_eq, List.flatMap_eq_nil_iff, Checked.value?_isSome_iff]

theorem checkMapping_value? (reads : ∀ value, (check value).value? = read value)
    (given : List (Value × Value)) :
    (checkMapping check (.mapping given)).value? =
      Rules.standard.entries read given := by
  have entry : Rules.standard.entry read = fun entry =>
      (checkEntry check entry).value? :=
    funext fun entry => (checkEntry_value? reads entry).symm
  have known : (checkMapping check (.mapping given)).value? =
      (checkEntries check given).value?.map Entries.ofList :=
    Checked.value?_mk_map Entries.ofList (checkEntries check given)
  rw [known, Rules.entries, entry]
  simp only [List.all_eq_true]
  by_cases sound : ∀ entry ∈ given, (checkEntry check entry).value?.isSome
  · have results : given.filterMap (fun entry =>
        (checkEntry check entry).value?) =
          (checkEntries check given).result := by
      rw [checkEntries_eq, ← List.filterMap_eq_map]
      exact List.filterMap_congr fun entry member =>
        if_pos (Checked.value?_isSome_iff.mp (sound entry member))
    rw [if_pos sound, results, Checked.value?_of_issues_eq_nil
      (checkEntries_issues_eq_nil_iff.mpr sound), Option.map_some]
  · rw [if_neg sound, Checked.value?,
      if_neg (mt checkEntries_issues_eq_nil_iff.mp sound), Option.map_none]

end CheckEntries

/-! ### The parts of a configuration -/

theorem checkPreset_value? (value : Value) :
    (checkPreset value).value? = Rules.standard.preset value := by
  have known : (checkPreset value).value? =
      (checkMapping (fun value => ⟨value, []⟩) value).value?.map
        Rules.textKeyed :=
    Checked.value?_mk_map Rules.textKeyed (checkMapping _ value)
  rw [known]
  cases value with
  | mapping given =>
      have reads : ∀ value, (⟨value, []⟩ : Checked Value).value? = some value :=
        fun _ => rfl
      rw [checkMapping_value? reads, Rules.preset]
  | _ => rfl

theorem checkPresets_value? (value : Value) :
    (checkMapping checkPreset value).value? = Rules.standard.presets value := by
  cases value with
  | mapping given => exact checkMapping_value? checkPreset_value? given
  | _ => rfl

theorem checkPart_value? {α : Type} {check : Value → Checked α}
    {read : Value → Option α} (reads : ∀ value, (check value).value? = read value)
    (missing : α) (entries : List (Value × Value)) (key : String) :
    (checkPart check missing entries key).value? =
      Rules.part read missing entries key := by
  unfold checkPart Rules.part
  cases lookup entries key with
  | none => rfl
  | some value => exact Checked.value?_under.trans (reads value)

theorem check_value? (entries : List (Value × Value)) :
    (check entries).value? = Rules.standard.config entries := by
  have reads : ∀ value, (checkDefaults value).value? =
      Rules.standard.settings value := fun _ => rfl
  have defaults := checkPart_value? reads {} entries "defaults"
  have presets := checkPart_value? checkPresets_value? [] entries "presets"
  rw [Rules.config, ← defaults, ← presets, check]
  unfold Checked.value?
  simp only [List.append_eq_nil_iff]
  by_cases first : (checkPart checkDefaults {} entries "defaults").issues = []
  · by_cases second : (checkPart (checkMapping checkPreset) [] entries
        "presets").issues = [] <;> simp [first, second]
  · simp [first]

theorem ofEntries_eq_ok_iff {entries : List (Value × Value)} {config : Config} :
    ofEntries entries = .ok config ↔
      Rules.standard.config entries = some config := by
  rw [← check_value?, ofEntries, Checked.value?]
  rcases check entries with ⟨result, _ | ⟨issue, issues⟩⟩ <;> simp

theorem ofEntries_eq_error {entries : List (Value × Value)}
    {issues : List Issue} (failed : ofEntries entries = .error issues) :
    (check entries).issues = issues := by
  unfold ofEntries at failed
  split at failed
  · cases failed
  · next checked =>
    rw [checked]
    exact Except.error.inj failed

/-! ### Where issues lie -/

/-- An issue in a part lies below its name, and the part cannot be read. -/
theorem exists_of_mem_part {α : Type} {check : Value → Checked α} {missing : α}
    {entries : List (Value × Value)} {key : String} {issue : Issue}
    (isIssue : issue ∈ (checkPart check missing entries key).issues) :
    ∃ value, lookup entries key = some value ∧
      ∃ inner ∈ (check value).issues, issue.path = .name key :: inner.path := by
  unfold checkPart at isIssue
  split at isIssue
  · cases isIssue
  · next value found =>
    obtain ⟨inner, isInner, rfl⟩ := List.mem_map.mp isIssue
    exact ⟨value, found, inner, isInner, rfl⟩

theorem mem_part_of_mem {α : Type} {check : Value → Checked α} {missing : α}
    {entries : List (Value × Value)} {key : String} {value : Value}
    (found : lookup entries key = some value) {inner : Issue}
    (isInner : inner ∈ (check value).issues) :
    { inner with path := .name key :: inner.path } ∈
      (checkPart check missing entries key).issues := by
  rw [checkPart, found]
  exact List.mem_map_of_mem isInner

theorem mem_checkEntries {α : Type} {check : Value → Checked α}
    {entries : List (Value × Value)} {issue : Issue} :
    issue ∈ (checkEntries check entries).issues ↔
      ∃ entry ∈ entries, issue ∈ (checkEntry check entry).issues := by
  rw [checkEntries_eq, List.mem_flatMap]

theorem not_isSound_iff {preset : Value × Value} :
    ¬ Rules.standard.IsSound preset ↔
      (checkEntry checkPreset preset).value? = none := by
  rw [Rules.IsSound, ← checkEntry_value? checkPreset_value?,
    Option.not_isSome_iff_eq_none]

/-- The issues that are found lie in faulty parts, and there are some in each. -/
theorem isReport_check (entries : List (Value × Value)) :
    Rules.standard.IsReport entries (check entries).issues where
  faulty issue isIssue := by
    rcases List.mem_append.mp isIssue with inSettings | inPresets
    · obtain ⟨value, found, inner, isInner, path⟩ :=
        exists_of_mem_part inSettings
      exact ⟨_, _, .settings found (Checked.value?_eq_none_iff.mpr ⟨_, isInner⟩), path⟩
    · obtain ⟨value, found, inner, isInner, path⟩ :=
        exists_of_mem_part inPresets
      by_cases isMapping : ∃ presets, value = .mapping presets
      · obtain ⟨presets, rfl⟩ := isMapping
        obtain ⟨preset, member, inPreset⟩ := mem_checkEntries.mp isInner
        obtain ⟨rest, below⟩ := Checked.path_of_mem_under inPreset
        refine ⟨_, rest, .preset found member ?_, path.trans (by rw [below]; rfl)⟩
        exact not_isSound_iff.mpr (Checked.value?_eq_none_iff.mpr ⟨_, inPreset⟩)
      · exact ⟨_, _, .presets found fun presets same =>
          isMapping ⟨presets, same⟩, path⟩
  reported place isPlace := by
    cases isPlace with
    | settings found failed =>
        obtain ⟨inner, isInner⟩ := Checked.value?_eq_none_iff.mp failed
        exact ⟨_, List.mem_append_left _ (mem_part_of_mem found isInner), _, rfl⟩
    | presets found other =>
        obtain ⟨inner, isInner⟩ := Checked.value?_eq_none_iff.mp
          ((checkPresets_value? _).trans (Rules.presets_of_other other))
        exact ⟨_, List.mem_append_right _ (mem_part_of_mem found isInner), _, rfl⟩
    | preset found member unsound =>
        obtain ⟨inner, inPreset⟩ :=
          Checked.value?_eq_none_iff.mp (not_isSound_iff.mp unsound)
        obtain ⟨rest, path⟩ := Checked.path_of_mem_under inPreset
        have isInner := mem_checkEntries.mpr ⟨_, member, inPreset⟩
        exact ⟨_, List.mem_append_right _ (mem_part_of_mem found isInner), rest,
          congrArg (.name "presets" :: ·) path⟩

/-- The reader that the commands use obeys the rules of the check. -/
theorem standard_obeys : Reader.standard.Obeys Rules.standard where
  distinct {text value} read := by
    unfold Reader.standard Reader.ofDocument at read
    simp only at read
    split at read <;> cases read
    exact Yaml.readDocument_isKeyed ‹_›
  accepts := ofEntries_eq_ok_iff
  reports failed := ofEntries_eq_error failed ▸ isReport_check _

end Config

end PaneLayout
