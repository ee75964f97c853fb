import PaneLayout.Proofs.Config.Rules

/-!
# What is kept of a configuration

Leaving out what issues point at changes the presets and the settings only.  An
issue points at its own preset if the step to a key leads back to that key, and
never at another one.  What remains is free of issues exactly if every preset
with an issue is found in this way.
-/

namespace PaneLayout

namespace IssueStep

/-- Keys to which one step leads agree. -/
theorem agrees_of_leadsTo {step : IssueStep} {left right : Value}
    (toLeft : step.leadsTo left = true)
    (toRight : step.leadsTo right = true) : left.agrees right = true := by
  cases step with
  | name text =>
      cases left <;> cases right <;> simp_all [leadsTo, Value.isText,
        Value.agrees_text]
  | number value =>
      exact Value.agrees_of_numeric (Value.agrees_int_iff.mp toLeft)
        (Value.agrees_int_iff.mp toRight)

end IssueStep

namespace Issue

/-- The issue lies in a part of a configuration. -/
def IsIn (issue : Issue) (part : String) : Prop :=
  ∃ rest, issue.path = .name part :: rest

theorem IsIn.eq {issue : Issue} {part other : String} (first : issue.IsIn part)
    (second : issue.IsIn other) : part = other := by
  obtain ⟨rest, path⟩ := first
  obtain ⟨others, same⟩ := second
  rw [path] at same
  injection same with same
  injection same

/-- The issue lies in a single preset. -/
def IsInPreset (issue : Issue) : Prop :=
  ∃ step rest, issue.path = .name "presets" :: step :: rest

end Issue

namespace Config

open Value

/-! ### Leaving out what issues point at -/

section Without

variable {entries : List (Value × Value)} {issues : List Issue}

theorem lookup_withoutIssue_of_ne {issue : Issue} {part key : String}
    (isIn : issue.IsIn part) (other : part ≠ key) :
    lookup (withoutIssue entries issue) key = lookup entries key := by
  obtain ⟨rest, path⟩ := isIn
  unfold withoutIssue
  rw [path]
  split
  · next _ impossible => cases impossible
  · next same _ =>
    cases same
    exact lookup_putEntry.trans (if_neg other)
  · next same _ =>
    cases same
    exact lookup_without.trans (if_neg other)

/-- An issue takes away the part in which it lies, unless it lies in a preset. -/
theorem lookup_withoutIssue_self {issue : Issue} {part : String}
    (isIn : issue.IsIn part)
    (whole : part = "presets" →
      ∀ presets, lookup entries "presets" ≠ some (.mapping presets)) :
    lookup (withoutIssue entries issue) part = none := by
  obtain ⟨rest, path⟩ := isIn
  unfold withoutIssue
  rw [path]
  split
  · next _ impossible => cases impossible
  · next same found =>
    cases same
    exact absurd found (whole rfl _)
  · next same _ =>
    cases same
    exact lookup_without.trans (if_pos rfl)

theorem lookup_withoutIssue_preset {presets : List (Value × Value)}
    {issue : Issue} (isIn : issue.IsInPreset)
    (found : lookup entries "presets" = some (.mapping presets)) :
    lookup (withoutIssue entries issue) "presets" =
      some (.mapping (presets.filter fun preset =>
        !issue.pointsAt preset.1)) := by
  obtain ⟨step, rest, path⟩ := isIn
  have points : issue.pointsAt = step.leadsTo := by
    funext key
    simp only [Issue.pointsAt, path]
  unfold withoutIssue
  rw [path, found, points]
  exact lookup_putEntry.trans (if_pos rfl)

open Classical in
/-- A part remains if no issue lies in it. -/
theorem lookup_without_part {part : String}
    (whole : part = "presets" →
      ∀ presets, lookup entries "presets" ≠ some (.mapping presets))
    (parts : ∀ issue ∈ issues, ∃ part, issue.IsIn part) :
    lookup (issues.foldl withoutIssue entries) part =
      if ∃ issue ∈ issues, issue.IsIn part then none
      else lookup entries part := by
  induction issues generalizing entries with
  | nil => simp
  | cons issue issues induction =>
      obtain ⟨⟨first, isIn⟩, later⟩ := List.forall_mem_cons.mp parts
      rw [List.foldl_cons]
      by_cases here : first = part
      · subst here
        have gone := lookup_withoutIssue_self isIn whole
        rw [induction _ later, gone, ite_self, if_pos]
        · exact ⟨issue, List.mem_cons_self, isIn⟩
        · rintro rfl presets found
          rw [gone] at found
          cases found
      · have same : lookup (withoutIssue entries issue) part =
            lookup entries part := lookup_withoutIssue_of_ne isIn here
        have notHere : ¬ issue.IsIn part := fun both => here (isIn.eq both)
        rw [induction _ later, same]
        · simp only [List.exists_mem_cons_iff, notHere, false_or]
        · rintro rfl presets
          rw [same]
          exact whole rfl presets

/-- The presets at which no issue points. -/
def kept (issues : List Issue) (presets : List (Value × Value)) :
    List (Value × Value) :=
  presets.filter fun preset => !issues.any (·.pointsAt preset.1)

theorem lookup_without_presets {presets : List (Value × Value)}
    (about : ∀ issue ∈ issues, issue.IsIn "defaults" ∨ issue.IsInPreset)
    (found : lookup entries "presets" = some (.mapping presets)) :
    lookup (issues.foldl withoutIssue entries) "presets" =
      some (.mapping (kept issues presets)) := by
  induction issues generalizing entries presets with
  | nil => simp [kept, found]
  | cons issue issues induction =>
      obtain ⟨here, later⟩ := List.forall_mem_cons.mp about
      have next : lookup (withoutIssue entries issue) "presets" =
          some (.mapping (presets.filter fun preset =>
            !issue.pointsAt preset.1)) := by
        rcases here with isIn | isIn
        · obtain ⟨rest, path⟩ := isIn
          have points : issue.pointsAt = fun _ => false := by
            funext key
            simp [Issue.pointsAt, path]
          rw [lookup_withoutIssue_of_ne ⟨rest, path⟩ (by decide), found, points]
          simp
        · exact lookup_withoutIssue_preset isIn found
      rw [List.foldl_cons, induction later next]
      simp [kept, List.filter_filter, Bool.and_comm]

end Without

/-! ### The presets that are kept -/

namespace Rules

variable {rules : Rules} {entries : List (Value × Value)}
  {issues : List Issue}

/-- The step to a key leads back to it. -/
def NamesKey (rules : Rules) (key : Value) : Prop :=
  (rules.step key).leadsTo key = true

theorem namesKey_text (name : String) : rules.NamesKey (.text name) := by
  simp [NamesKey, rules.step_text, IssueStep.leadsTo, isText]

theorem namesKey_int {number : Int}
    (inRange : -0x8000000000000000 ≤ number ∧ number < 0x8000000000000000) :
    rules.NamesKey (.int number) := by
  simp [NamesKey, rules.step_int inRange, IssueStep.leadsTo, agrees_int_iff,
    numeric?]

/-- A step that leads to some key leads to its own, or the other is a text. -/
theorem namesKey_of_leadsTo {key other : Value}
    (leads : (rules.step key).leadsTo other = true) :
    rules.NamesKey key ∨ ∃ name, other = .text name := by
  cases isStep : rules.step key with
  | name text =>
      rw [isStep] at leads
      exact .inr ⟨text, isText_iff.mp leads⟩
  | number value =>
      left
      rw [NamesKey, isStep]
      exact rules.agrees_of_step isStep

/-- A step that leads to its own key leads to no other preset. -/
theorem eq_of_leadsTo {presets : List (Value × Value)}
    (distinct : DistinctKeys presets) {faulty preset : Value × Value}
    (isFaulty : faulty ∈ presets) (member : preset ∈ presets)
    (named : rules.NamesKey faulty.1)
    (leads : (rules.step faulty.1).leadsTo preset.1 = true) :
    faulty = preset :=
  distinct.eq_of_agrees isFaulty member
    (IssueStep.agrees_of_leadsTo named leads)
    (IssueStep.agrees_of_leadsTo leads named)

section Report

variable {presets : List (Value × Value)}
  (report : rules.IsReport entries issues)
  (found : lookup entries "presets" = some (.mapping presets))
include report found

theorem mem_kept_iff {preset : Value × Value} :
    preset ∈ kept issues presets ↔ preset ∈ presets ∧
      ∀ faulty ∈ presets, (rules.step faulty.1).leadsTo preset.1 = true →
        rules.IsSound faulty := by
  rw [kept, List.mem_filter, Bool.not_eq_true', List.any_eq_false]
  refine and_congr_right fun _ => ⟨fun aside faulty isFaulty leads => ?_,
    fun sound issue isIssue points => ?_⟩
  · by_contra unsound
    obtain ⟨issue, isIssue, rest, path⟩ :=
      report.reported _ (.preset found isFaulty unsound)
    refine aside issue isIssue ?_
    simp only [Issue.pointsAt, path, List.cons_append, List.nil_append, leads]
  · obtain ⟨place, rest, isPlace, path⟩ := report.faulty issue isIssue
    cases isPlace with
    | settings _ _ => simp [Issue.pointsAt, path] at points
    | presets isOther other =>
        rw [found] at isOther
        cases isOther
        exact other presets rfl
    | preset same isFaulty unsound =>
        rw [found] at same
        cases same
        simp only [Issue.pointsAt, path, List.cons_append] at points
        exact unsound (sound _ isFaulty points)

theorem mem_kept_iff_isSound (distinct : DistinctKeys presets)
    (named : ∀ preset ∈ presets,
      rules.IsSound preset ∨ rules.NamesKey preset.1)
    {preset : Value × Value} (member : preset ∈ presets) :
    preset ∈ kept issues presets ↔ rules.IsSound preset := by
  rw [mem_kept_iff report found]
  constructor
  · rintro ⟨_, sound⟩
    exact (named preset member).elim id (sound preset member)
  · refine fun isSound => ⟨member, fun faulty isFaulty leads => ?_⟩
    refine (named faulty isFaulty).elim id fun isNamed => ?_
    exact eq_of_leadsTo distinct isFaulty member isNamed leads ▸ isSound

/-- A preset to which its own step does not lead stays. -/
theorem mem_kept_of_not_namesKey (distinct : DistinctKeys presets)
    {preset : Value × Value} (member : preset ∈ presets)
    (unnamed : ¬ rules.NamesKey preset.1) : preset ∈ kept issues presets := by
  refine (mem_kept_iff report found).mpr
    ⟨member, fun faulty isFaulty leads => ?_⟩
  rcases namesKey_of_leadsTo leads with named | ⟨name, isName⟩
  · have same := eq_of_leadsTo distinct isFaulty member named leads
    exact absurd (same ▸ named) unnamed
  · exact absurd (isName ▸ namesKey_text name) unnamed

end Report

/-! ### What remains of the entries -/

theorem IsReport.isIn (report : rules.IsReport entries issues) {issue : Issue}
    (member : issue ∈ issues) : ∃ part, issue.IsIn part := by
  obtain ⟨place, rest, isPlace, path⟩ := report.faulty issue member
  cases isPlace <;> exact ⟨_, _, path⟩

theorem IsReport.settings_iff (report : rules.IsReport entries issues) :
    (∃ issue ∈ issues, issue.IsIn "defaults") ↔
      part rules.settings {} entries "defaults" = none := by
  constructor
  · rintro ⟨issue, isIssue, isIn⟩
    obtain ⟨place, rest, isPlace, path⟩ := report.faulty issue isIssue
    cases isPlace with
    | settings found failed => exact (part_of_lookup found).trans failed
    | presets _ _ => exact absurd (isIn.eq ⟨_, path⟩) (by decide)
    | preset _ _ _ => exact absurd (isIn.eq ⟨_, path⟩) (by decide)
  · intro failed
    unfold part at failed
    split at failed
    · cases failed
    · next value found =>
      obtain ⟨issue, isIssue, rest, path⟩ :=
        report.reported _ (.settings found failed)
      exact ⟨issue, isIssue, rest, path⟩

/-- The settings that remain: those that there are, or else none. -/
theorem settings_without (report : rules.IsReport entries issues) :
    part rules.settings {} (issues.foldl withoutIssue entries) "defaults" =
      some ((part rules.settings {} entries "defaults").getD {}) := by
  have whole : "defaults" = "presets" →
      ∀ presets, lookup entries "presets" ≠ some (.mapping presets) :=
    fun same => absurd same (by decide)
  have found := lookup_without_part whole fun issue => report.isIn
  by_cases faulty : ∃ issue ∈ issues, issue.IsIn "defaults"
  · rw [report.settings_iff.mp faulty, part, found, if_pos faulty]
    rfl
  · obtain ⟨settings, read⟩ := Option.ne_none_iff_exists'.mp
      (mt report.settings_iff.mpr faulty)
    rw [if_neg faulty] at found
    rw [read, part, found]
    exact read

theorem presets_without {presets : List (Value × Value)}
    (report : rules.IsReport entries issues)
    (found : lookup entries "presets" = some (.mapping presets)) :
    part rules.presets [] (issues.foldl withoutIssue entries) "presets" =
      rules.presets (.mapping (kept issues presets)) := by
  rw [part, lookup_without_presets (fun issue isIssue => ?_) found]
  obtain ⟨place, rest, isPlace, path⟩ := report.faulty issue isIssue
  cases isPlace with
  | settings _ _ => exact .inl ⟨_, path⟩
  | presets isOther other =>
      rw [found] at isOther
      cases isOther
      exact absurd rfl (other presets)
  | preset _ _ _ => exact .inr ⟨_, _, path⟩

theorem presets_without_of_other (report : rules.IsReport entries issues)
    (other : ∀ presets, lookup entries "presets" ≠ some (.mapping presets)) :
    part rules.presets [] (issues.foldl withoutIssue entries) "presets" =
      some [] := by
  rw [part, lookup_without_part (fun _ => other) fun issue => report.isIn]
  cases found : lookup entries "presets" with
  | none => rw [ite_self]
  | some value =>
      have isOther : ∀ presets, value ≠ .mapping presets := by
        rintro presets rfl
        exact other presets found
      obtain ⟨issue, isIssue, rest, path⟩ :=
        report.reported _ (.presets found isOther)
      rw [if_pos ⟨issue, isIssue, rest, path⟩]

theorem config_without (report : rules.IsReport entries issues) :
    rules.config (issues.foldl withoutIssue entries) =
      (part rules.presets [] (issues.foldl withoutIssue entries) "presets").map
        fun presets =>
          ⟨(part rules.settings {} entries "defaults").getD {}, presets⟩ := by
  rw [config, settings_without report]
  cases part rules.presets [] (issues.foldl withoutIssue entries) "presets" <;>
    rfl

/-- What remains can be read if all presets that are kept are sound. -/
theorem config_without_isSome_iff (report : rules.IsReport entries issues) :
    (rules.config (issues.foldl withoutIssue entries)).isSome ↔
      ∀ presets, lookup entries "presets" = some (.mapping presets) →
        ∀ preset ∈ kept issues presets, rules.IsSound preset := by
  rw [config_without report, Option.isSome_map]
  by_cases isMapping : ∃ presets,
      lookup entries "presets" = some (.mapping presets)
  · obtain ⟨presets, found⟩ := isMapping
    rw [presets_without report found, Rules.presets, entries_isSome_iff, found]
    simp [IsSound]
  · rw [presets_without_of_other report fun presets found =>
      isMapping ⟨presets, found⟩]
    refine iff_of_true rfl fun presets found => ?_
    exact absurd ⟨presets, found⟩ isMapping

/-- Entries that can be read have no faulty part. -/
theorem not_faulty_of_config {config : Config}
    (read : rules.config entries = some config) (place : List IssueStep) :
    ¬ rules.Faulty entries place := by
  simp only [Rules.config, bind, Option.bind_eq_some_iff] at read
  obtain ⟨defaults, ofDefaults, presets, ofPresets, _⟩ := read
  rintro (⟨found, failed⟩ | ⟨found, other⟩ | ⟨found, member, unsound⟩)
  · rw [part_of_lookup found, failed] at ofDefaults
    cases ofDefaults
  · rw [part_of_lookup found, presets_of_other other] at ofPresets
    cases ofPresets
  · rw [part_of_lookup found] at ofPresets
    exact unsound
      (entries_isSome_iff.mp (Option.isSome_of_eq_some ofPresets) _ member)

end Rules

/-! ### Recovery -/

/-- Recovery reads what issues leave. -/
theorem recover_eq {reader : Reader} {rules : Rules}
    (obeys : reader.Obeys rules) (entries : List (Value × Value)) :
    ∃ issues, rules.IsReport entries issues ∧
      recover reader.validate entries =
        ((rules.config (issues.foldl withoutIssue entries)).getD {}, issues) := by
  unfold recover
  cases first : reader.validate entries with
  | ok config =>
      have read := obeys.accepts.mp first
      refine ⟨[], ⟨nofun, fun place faulty => ?_⟩, by simp [read]⟩
      exact absurd faulty (Rules.not_faulty_of_config read place)
  | error issues =>
      refine ⟨issues, obeys.reports first, ?_⟩
      simp only
      cases second : reader.validate (issues.foldl withoutIssue entries) with
      | ok config => rw [obeys.accepts.mp second, Option.getD_some]
      | error later =>
          have unread : rules.config (issues.foldl withoutIssue entries) =
              none := by
            refine Option.eq_none_iff_forall_ne_some.mpr fun config read => ?_
            rw [obeys.accepts.mpr read] at second
            cases second
          rw [unread, Option.getD_none]

end Config

end PaneLayout
