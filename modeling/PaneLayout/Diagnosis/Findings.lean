import PaneLayout.Diagnosis
import PaneLayout.Drawing.Table

/-!
# Findings on a terminal

A report is shown as a numbered backlog with the actions of each item, a table
of the findings, and the next steps.  Here are the markup of the lines and the
table; texts of the report are shown as they are.
-/

namespace PaneLayout

/-- A severity in brackets, as markup. -/
def Severity.badge : Severity → String
  | .high => "[red]\\[HIGH][/]"
  | .medium => "[yellow]\\[MEDIUM][/]"
  | .low => "[blue]\\[LOW][/]"

/-- The lines of an item of the backlog, which counts from one. -/
def BacklogItem.lines (number : Nat) (item : BacklogItem) : List String :=
  (toString number ++ ". " ++ item.severity.badge ++ " " ++
    Markup.escape item.summary) ::
  item.actions.map fun action => "   - " ++ Markup.escape action

namespace Report

/-- The lines of the backlog. -/
def backlogLines (report : Report) : List String :=
  "\n[bold]Backlog[/]" :: linesFrom 1 report.backlog
where
  linesFrom (number : Nat) : List BacklogItem → List String
    | [] => []
    | item :: items => item.lines number ++ linesFrom (number + 1) items

/-- The table of the findings. -/
def findingsTable (width : Nat) (report : Report) :
    Except Fault (List (List Char)) := do
  let findings := report.findings
  let columns := [
    ← Drawing.Column.ofMarkup "Severity" (findings.map (·.severity.badge)) true,
    ← Drawing.Column.ofMarkup "Path"
      (findings.map fun finding => Markup.escape finding.path) true,
    ← Drawing.Column.ofMarkup "Description"
      (findings.map fun finding => Markup.escape finding.description) true]
  return Drawing.borderedTable width "Findings" .left columns

/-- The lines of the next steps. -/
def nextStepLines (report : Report) : List String :=
  "\n[bold]Next steps[/]" ::
    report.nextSteps.map fun step => " - " ++ Markup.escape step

end Report

end PaneLayout
