import PaneLayout.Diagnosis

/-!
# What a report holds

A report has the findings of all the advice that was collected.
-/

namespace PaneLayout

namespace Collector

theorem mem_bySeverity {α : Type} {severity : α → Severity} {items : List α}
    {item : α} : item ∈ bySeverity severity items ↔ item ∈ items :=
  List.mem_mergeSort

end Collector

namespace Diagnosis

theorem findings_addAll (collector : Collector) (advices : List Advice) :
    (addAll collector advices).findings =
      collector.findings ++ advices.map Advice.finding := by
  induction advices generalizing collector with
  | nil => exact (List.append_nil _).symm
  | cons first rest induction =>
      rw [show addAll collector (first :: rest) = addAll (collector.add
        first.finding (some first.nextStep)) rest from rfl, induction,
        Collector.add, List.append_assoc]
      rfl

theorem mem_findings {advices : List Advice} {finding : Finding} :
    finding ∈ (addAll {} advices).report.findings ↔
      ∃ advice ∈ advices, advice.finding = finding := by
  rw [Collector.report, Collector.mem_bySeverity, findings_addAll]
  exact List.mem_map

/-- Issues that are known beforehand are of medium severity. -/
theorem severity_issueAdvice {index : Nat} {issues : List String}
    {item : Advice} (member : item ∈ issueAdvice index issues) :
    item.finding.severity = .medium := by
  induction issues generalizing index with
  | nil => cases member
  | cons issue issues induction =>
      unfold issueAdvice at member
      dsimp only at member
      split at member
      · exact induction member
      · rcases List.mem_cons.mp member with rfl | later
        · rfl
        · exact induction later

end Diagnosis

end PaneLayout
