import PaneLayout.Proofs.Diagnosis.Report
import PaneLayout.Proofs.Entries.Order

/-!
# The report on a sequence of findings

A collector merges each finding into the backlog as it comes.  Its report is
described here by the whole sequence of additions: every finding is listed,
every path has one item, and that item has the highest severity of its path, the
summary that first reached it, and the texts of its path without repeats.
-/

namespace PaneLayout

theorem Severity.rank_injective : Function.Injective Severity.rank := by
  intro left right same
  cases left <;> cases right <;> first | rfl | cases same

namespace Collector

/-- A finding that is added, with the step that it suggests. -/
structure Addition where
  finding : Finding
  nextStep : Option String

namespace Addition

/-- The suggested step as a list; an empty text is none. -/
def steps (addition : Addition) : List String :=
  addition.nextStep.toList.filter (· ≠ "")

/-- What the addition says, the description first. -/
def texts (addition : Addition) : List String :=
  addition.finding.description :: addition.steps

end Addition

/-- A collector after several additions in turn. -/
def addEach (collector : Collector) (added : List Addition) : Collector :=
  added.foldl (fun collector addition =>
    collector.add addition.finding addition.nextStep) collector

/-- The paths of some additions, each where it comes first. -/
def paths (added : List Addition) : List String :=
  (added.map fun addition => addition.finding.path).eraseDups

/-- The additions on one path. -/
def onPath (path : String) (added : List Addition) : List Addition :=
  added.filter fun addition => addition.finding.path = path

/-- One of the severities that none of them exceeds. -/
def IsHighest (level : Severity) (levels : List Severity) : Prop :=
  level ∈ levels ∧ ∀ other ∈ levels, other.rank ≤ level.rank

/-- The item is what the additions on its path come to. -/
structure IsMerged (same : List Addition) (item : BacklogItem) : Prop where
  severity : IsHighest item.severity
    (same.map fun addition => addition.finding.severity)
  summary : ((same.map Addition.finding).find?
    fun finding => finding.severity = item.severity).map Finding.description =
      some item.summary
  actions : item.actions = (same.flatMap Addition.texts).eraseDups

/-- The items in falling severity, those of one severity in their old order. -/
structure IsBySeverity {α : Type} (severity : α → Severity)
    (items sorted : List α) : Prop where
  perm : sorted.Perm items
  falling : sorted.Pairwise fun left right =>
    (severity right).rank ≤ (severity left).rank
  stable (level : Severity) :
    (sorted.filter fun item => severity item = level) =
      items.filter fun item => severity item = level

/-- The report says what was added, no less and no more. -/
structure IsReportOn (added : List Addition) (report : Report) : Prop where
  findings : IsBySeverity Finding.severity (added.map Addition.finding)
    report.findings
  unique : (report.backlog.map BacklogItem.id).Nodup
  backlog : ∃ items : List BacklogItem,
    items.map BacklogItem.id = paths added ∧
      (∀ item ∈ items, IsMerged (onPath item.id added) item) ∧
      IsBySeverity BacklogItem.severity items report.backlog
  nextSteps : report.nextSteps = (added.flatMap Addition.steps).eraseDups
  worst (level : Severity) : report.worst = some level ↔
    IsHighest level (added.map fun addition => addition.finding.severity)
  worst_none : report.worst = none ↔ added = []

/-! ## Sorting -/

theorem isBySeverity_bySeverity {α : Type} (severity : α → Severity)
    (items : List α) :
    IsBySeverity severity items (bySeverity severity items) := by
  have transitive (first second third : α)
      (left : decide ((severity second).rank ≤ (severity first).rank) = true)
      (right : decide ((severity third).rank ≤ (severity second).rank) = true) :
      decide ((severity third).rank ≤ (severity first).rank) = true :=
    decide_eq_true
      (Nat.le_trans (of_decide_eq_true right) (of_decide_eq_true left))
  have total (first second : α) :
      (decide ((severity second).rank ≤ (severity first).rank) ||
        decide ((severity first).rank ≤ (severity second).rank)) = true := by
    simpa using Nat.le_total _ _
  refine ⟨List.mergeSort_perm items _, ?_, fun level => ?_⟩
  · exact (List.pairwise_mergeSort transitive total items).imp
      of_decide_eq_true
  · -- The items of one level are sorted as they stand, so they stay in order.
    have alike : (items.filter fun item => severity item = level).Pairwise
        fun left right =>
          decide ((severity right).rank ≤ (severity left).rank) = true := by
      apply List.pairwise_of_forall_mem_list
      intro left isLeft right isRight
      rw [of_decide_eq_true (List.mem_filter.mp isLeft).2,
        of_decide_eq_true (List.mem_filter.mp isRight).2]
      exact decide_eq_true (Nat.le_refl _)
    have kept := (List.sublist_mergeSort transitive total alike
      List.filter_sublist).filter fun item => severity item = level
    simp only [List.filter_filter, Bool.and_self] at kept
    exact (kept.eq_of_length
      ((List.mergeSort_perm items _).filter _).length_eq.symm).symm

/-- Sorted items begin with the highest severity. -/
theorem IsBySeverity.head_iff {α : Type} {severity : α → Severity}
    {items sorted : List α} (bySeverity : IsBySeverity severity items sorted)
    {level : Severity} :
    sorted.head?.map severity = some level ↔
      IsHighest level (items.map severity) := by
  cases sorted with
  | nil =>
      rw [← bySeverity.perm.nil_eq]
      simp [IsHighest]
  | cons first rest =>
      have highest : IsHighest (severity first) (items.map severity) := by
        refine ⟨List.mem_map_of_mem
          (bySeverity.perm.mem_iff.mp List.mem_cons_self), ?_⟩
        rw [List.forall_mem_map]
        intro item member
        rcases List.mem_cons.mp (bySeverity.perm.mem_iff.mpr member) with
          rfl | later
        · exact Nat.le_refl _
        · exact (List.pairwise_cons.mp bySeverity.falling).1 item later
      simp only [List.head?_cons, Option.map_some, Option.some.injEq]
      constructor
      · rintro rfl
        exact highest
      · intro other
        exact Severity.rank_injective (Nat.le_antisymm
          (other.2 _ highest.1) (highest.2 _ other.1))

/-! ## Texts without repeats -/

theorem addUnique_eraseDups {α : Type} [DecidableEq α] (items : List α)
    (item : α) :
    addUnique items.eraseDups item = (items ++ [item]).eraseDups := by
  rw [addUnique, eraseDups_concat]

theorem foldl_addUnique_eraseDups {α : Type} [DecidableEq α]
    (items more : List α) :
    more.foldl addUnique items.eraseDups = (items ++ more).eraseDups := by
  induction more generalizing items with
  | nil => rw [List.foldl_nil, List.append_nil]
  | cons item more induction =>
      rw [List.foldl_cons, addUnique_eraseDups, induction, List.append_assoc,
        List.singleton_append]

theorem suggested_eq_steps (addition : Addition) :
    suggested addition.nextStep = addition.steps := by
  obtain ⟨finding, nextStep⟩ := addition
  cases nextStep with
  | none => rfl
  | some text => by_cases isEmpty : text = "" <;>
      simp [suggested, Addition.steps, Option.filter, isEmpty]

/-! ## One more addition -/

theorem onPath_append (path : String) (added : List Addition)
    (addition : Addition) :
    onPath path (added ++ [addition]) =
      if addition.finding.path = path then onPath path added ++ [addition]
      else onPath path added := by
  by_cases same : addition.finding.path = path <;> simp [onPath, same]

theorem onPath_eq_nil {path : String} {added : List Addition}
    (isNew : path ∉ paths added) : onPath path added = [] := by
  rw [paths, List.mem_eraseDups] at isNew
  refine List.filter_eq_nil_iff.mpr fun addition member same => isNew ?_
  exact List.mem_map.mpr ⟨addition, member, of_decide_eq_true same⟩

theorem merge_id {known : Option BacklogItem} {addition : Addition}
    (same : ∀ item ∈ known, item.id = addition.finding.path) :
    (merge known addition.finding addition.nextStep).id =
      addition.finding.path := by
  cases known with
  | none => rfl
  | some item =>
      rw [merge]
      split
      · exact same item rfl
      · rfl

theorem isMerged_first (addition : Addition) :
    IsMerged [addition]
      (merge none addition.finding addition.nextStep) := by
  refine ⟨⟨List.mem_singleton_self _, ?_⟩, ?_, ?_⟩
  · intro other member
    rw [List.mem_singleton.mp member]
    exact Nat.le_refl _
  · simp [merge]
  · rw [merge, suggested_eq_steps, List.flatMap_singleton]
    exact foldl_addUnique_eraseDups [] addition.texts

theorem IsHighest.append_of_le {level other : Severity}
    {levels : List Severity} (highest : IsHighest level levels)
    (low : other.rank ≤ level.rank) : IsHighest level (levels ++ [other]) := by
  refine ⟨List.mem_append_left _ highest.1, ?_⟩
  rw [List.forall_mem_append]
  exact ⟨highest.2, List.forall_mem_singleton.mpr low⟩

theorem IsHighest.append_of_lt {level other : Severity}
    {levels : List Severity} (highest : IsHighest level levels)
    (high : level.rank < other.rank) : IsHighest other (levels ++ [other]) := by
  refine ⟨List.mem_append_right _ (List.mem_singleton_self _), ?_⟩
  rw [List.forall_mem_append]
  exact ⟨fun third member => Nat.le_trans (highest.2 third member)
      (Nat.le_of_lt high),
    List.forall_mem_singleton.mpr (Nat.le_refl _)⟩

/-- A merged item stays one when an addition on its path is merged into it. -/
theorem IsMerged.merge {same : List Addition} {item : BacklogItem}
    (merged : IsMerged same item) (addition : Addition) :
    IsMerged (same ++ [addition])
      (merge (some item) addition.finding addition.nextStep) := by
  have actions : (addition.finding.description ::
      suggested addition.nextStep).foldl addUnique item.actions =
        ((same ++ [addition]).flatMap Addition.texts).eraseDups := by
    rw [suggested_eq_steps, merged.actions, List.flatMap_append,
      List.flatMap_singleton]
    exact foldl_addUnique_eraseDups _ addition.texts
  by_cases low : addition.finding.severity.rank ≤ item.severity.rank
  · rw [Collector.merge, if_pos low]
    refine ⟨?_, ?_, actions⟩
    · rw [List.map_append]
      exact merged.severity.append_of_le low
    · -- The first finding with the highest severity is still the first one.
      obtain ⟨first, found, summary⟩ := Option.map_eq_some_iff.mp merged.summary
      rw [List.map_append, List.find?_append, found]
      exact congrArg some summary
  · rw [Collector.merge, if_neg low]
    have high := Nat.lt_of_not_le low
    refine ⟨?_, ?_, actions⟩
    · rw [List.map_append]
      exact merged.severity.append_of_lt high
    · have noneBefore : (same.map Addition.finding).find?
          (fun finding => finding.severity = addition.finding.severity) =
            none := by
        rw [List.find?_eq_none]
        intro finding member equal
        obtain ⟨earlier, isEarlier, rfl⟩ := List.mem_map.mp member
        have bounded := merged.severity.2 _
          (List.mem_map_of_mem (f := fun addition : Addition =>
            addition.finding.severity) isEarlier)
        rw [of_decide_eq_true equal] at bounded
        exact low bounded
      rw [List.map_append, List.find?_append, noneBefore]
      simp

/-! ## The run of additions -/

/-- The collector holds what a sequence of additions comes to. -/
structure Collects (added : List Addition) (collector : Collector) :
    Prop where
  findings : collector.findings = added.map Addition.finding
  nextSteps : collector.nextSteps = (added.flatMap Addition.steps).eraseDups
  unique : collector.backlog.keys.Nodup
  keys : collector.backlog.keys = paths added
  ids : ∀ entry ∈ collector.backlog, entry.2.id = entry.1
  merged : ∀ entry ∈ collector.backlog,
    IsMerged (onPath entry.1 added) entry.2

theorem collects_nil : Collects [] {} where
  findings := rfl
  nextSteps := rfl
  unique := List.nodup_nil
  keys := rfl
  ids := List.forall_mem_nil _
  merged := List.forall_mem_nil _

theorem Collects.add {added : List Addition} {collector : Collector}
    (collected : Collects added collector) (addition : Addition) :
    Collects (added ++ [addition])
      (collector.add addition.finding addition.nextStep) := by
  let path := addition.finding.path
  have known : ∀ item ∈ collector.backlog.get? path,
      (path, item) ∈ collector.backlog :=
    fun item found => Entries.mem_of_get? found
  have unique : (collector.add addition.finding
      addition.nextStep).backlog.keys.Nodup :=
    Entries.keys_nodup_put collected.unique
  have new : IsMerged (onPath path (added ++ [addition]))
      (merge (collector.backlog.get? path) addition.finding
        addition.nextStep) := by
    rw [onPath_append, if_pos rfl]
    cases found : collector.backlog.get? path with
    | none =>
        have isNew : path ∉ paths added := by
          rw [← collected.keys, Entries.mem_keys_iff, found]
          exact fun isKnown => nomatch isKnown
        rw [onPath_eq_nil isNew]
        exact isMerged_first addition
    | some item => exact (collected.merged _ (known item found)).merge addition
  -- An entry of the new backlog is the merged one or an old one elsewhere.
  have entries : ∀ entry ∈ (collector.add addition.finding
      addition.nextStep).backlog,
      entry = (path, merge (collector.backlog.get? path) addition.finding
        addition.nextStep) ∨
      entry ∈ collector.backlog ∧ path ≠ entry.1 := by
    rintro ⟨key, item⟩ member
    by_cases same : path = key
    · subst same
      have found := Entries.get?_of_mem unique member
      rw [Collector.add, Entries.get?_put_self] at found
      exact .inl (congrArg _ (Option.some.inj found).symm)
    · refine .inr ⟨(Entries.mem_put member).resolve_left ?_, same⟩
      rintro ⟨⟩
      exact same rfl
  refine ⟨?_, ?_, unique, ?_, fun entry member => ?_, fun entry member => ?_⟩
  · rw [Collector.add, collected.findings, List.map_append, List.map_singleton]
  · rw [Collector.add, collected.nextSteps, suggested_eq_steps,
      foldl_addUnique_eraseDups, List.flatMap_append, List.flatMap_singleton]
  · rw [Collector.add, Entries.keys_put, collected.keys, paths,
      ← eraseDups_concat, paths, List.map_append, List.map_singleton]
  · rcases entries entry member with rfl | ⟨isOld, -⟩
    · exact merge_id fun item found => collected.ids _ (known item found)
    · exact collected.ids entry isOld
  · rcases entries entry member with rfl | ⟨isOld, elsewhere⟩
    · exact new
    · rw [onPath_append, if_neg elsewhere]
      exact collected.merged entry isOld

theorem Collects.addEach {added : List Addition} {collector : Collector}
    (collected : Collects added collector) (more : List Addition) :
    Collects (added ++ more) (addEach collector more) := by
  induction more generalizing added collector with
  | nil => rwa [List.append_nil]
  | cons addition more induction =>
      rw [List.append_cons]
      exact induction (collected.add addition)

theorem Collects.map_id {added : List Addition} {collector : Collector}
    (collected : Collects added collector) :
    (collector.backlog.map Prod.snd).map BacklogItem.id =
      collector.backlog.keys := by
  rw [List.map_map]
  exact List.map_congr_left collected.ids

/-- The report on a sequence of additions says what was added. -/
theorem isReportOn_report (added : List Addition) :
    IsReportOn added (addEach {} added).report := by
  have collected := collects_nil.addEach added
  rw [List.nil_append] at collected
  have findings : IsBySeverity Finding.severity (added.map Addition.finding)
      (addEach {} added).report.findings :=
    collected.findings ▸ isBySeverity_bySeverity _ _
  have backlog := isBySeverity_bySeverity BacklogItem.severity
    ((addEach {} added).backlog.map Prod.snd)
  refine ⟨findings, ?_, ⟨_, ?_, ?_, backlog⟩, collected.nextSteps,
    fun level => ?_, ?_⟩
  · refine (backlog.perm.map BacklogItem.id).nodup_iff.mpr ?_
    rw [collected.map_id]
    exact collected.unique
  · rw [collected.map_id, collected.keys]
  · rw [List.forall_mem_map]
    intro entry member
    rw [collected.ids entry member]
    exact collected.merged entry member
  · rw [Report.worst, findings.head_iff, List.map_map]
    rfl
  · rw [Report.worst, Option.map_eq_none_iff, List.head?_eq_none_iff,
      ← List.length_eq_zero_iff, findings.perm.length_eq, List.length_map,
      List.length_eq_zero_iff]

end Collector

end PaneLayout
