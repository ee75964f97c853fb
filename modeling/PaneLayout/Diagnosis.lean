import PaneLayout.Prepared

/-!
# Diagnosing a preset

A diagnosis lists what is wrong with a preset instead of stopping at the first
error.  Each finding has a path and a severity.  Findings on one path are merged
into one item of the backlog, which keeps the highest severity and the summary
that first reached it.  Reports list the highest severity first and keep the
order of discovery otherwise.
-/

namespace PaneLayout

/-- How urgent a finding is. -/
inductive Severity where
  | high
  | medium
  | low
deriving Repr, BEq, DecidableEq

namespace Severity

def name : Severity → String
  | .high => "high"
  | .medium => "medium"
  | .low => "low"

def rank : Severity → Nat
  | .high => 3
  | .medium => 2
  | .low => 1

end Severity

/-- One problem of a preset. -/
structure Finding where
  path : String
  severity : Severity
  description : String
deriving Repr, BEq, DecidableEq

/-- All findings of one path. -/
structure BacklogItem where
  id : String
  severity : Severity
  summary : String
  actions : List String
deriving Repr, BEq, DecidableEq

/-- What a diagnosis came to. -/
structure Report where
  findings : List Finding
  nextSteps : List String
  backlog : List BacklogItem
deriving Repr, BEq, DecidableEq

/-- The highest severity of a report. -/
def Report.worst (report : Report) : Option Severity :=
  report.findings.head?.map Finding.severity

/-- A list with one more item at the end, unless it has the item already. -/
def addUnique {α : Type} [DecidableEq α] (items : List α) (item : α) : List α :=
  if item ∈ items then items else items ++ [item]

/-- A report in the making. -/
structure Collector where
  findings : List Finding := []
  nextSteps : List String := []
  backlog : Entries BacklogItem := []
deriving Repr, BEq, DecidableEq

namespace Collector

/-- Items by severity, the highest first; ties keep their order. -/
def bySeverity {α : Type} (severity : α → Severity) (items : List α) : List α :=
  items.mergeSort fun left right => (severity right).rank ≤ (severity left).rank

/-- The step that a finding suggests; an empty one counts as none. -/
def suggested (nextStep : Option String) : List String :=
  (nextStep.filter (· ≠ "")).toList

/-- A backlog item after one more finding on its path. -/
def merge (known : Option BacklogItem) (finding : Finding)
    (nextStep : Option String) : BacklogItem :=
  let added := finding.description :: suggested nextStep
  match known with
  | none =>
      { id := finding.path
        severity := finding.severity
        summary := finding.description
        actions := added.foldl addUnique [] }
  | some item =>
      let actions := added.foldl addUnique item.actions
      if finding.severity.rank ≤ item.severity.rank then
        { item with actions }
      else
        { id := finding.path
          severity := finding.severity
          summary := finding.description
          actions }

/-- Adds a finding with the step that it suggests. -/
def add (collector : Collector) (finding : Finding)
    (nextStep : Option String) : Collector where
  findings := collector.findings ++ [finding]
  nextSteps := (suggested nextStep).foldl addUnique collector.nextSteps
  backlog := collector.backlog.put finding.path
    (merge (collector.backlog.get? finding.path) finding nextStep)

/-- The report on all findings added. -/
def report (collector : Collector) : Report where
  findings := bySeverity Finding.severity collector.findings
  nextSteps := collector.nextSteps
  backlog := bySeverity BacklogItem.severity
    (collector.backlog.map Prod.snd)

end Collector

namespace Diagnosis

/-- A finding with the step that it suggests. -/
structure Advice where
  finding : Finding
  nextStep : String

def advice (path : String) (severity : Severity)
    (description nextStep : String) : Advice :=
  ⟨⟨path, severity, description⟩, nextStep⟩

def addAll (collector : Collector) (advices : List Advice) : Collector :=
  advices.foldl (fun collector item =>
    collector.add item.finding (some item.nextStep)) collector

mutual

/-- How many mappings ask for the focus, among a node and what its lists of
panes hold. -/
def focusCount : Value → Nat
  | .list items => focusCountList items
  | .mapping entries =>
      (if Compile.flagField entries "focus" then 1 else 0) +
        focusCountPanes entries
  | _ => 0

def focusCountList : List Value → Nat
  | [] => 0
  | item :: items => focusCount item + focusCountList items

/-- The count for the list under the first key `panes`. -/
def focusCountPanes : List (Value × Value) → Nat
  | [] => 0
  | (key, value) :: rest =>
      if key.isText "panes" then
        focusCountOfList value
      else
        focusCountPanes rest

/-- The count for a value that must be a list. -/
def focusCountOfList : Value → Nat
  | .list items => focusCountList items
  | _ => 0

end

/-- The layout of a preset, unless it is absent or null. -/
def layout? (entries : List (Value × Value)) : Option Value :=
  match Value.lookup entries "layout" with
  | none | some .null => none
  | some layout => some layout

/-- More than one focus in the layout. -/
def focusAdvice (entries : List (Value × Value)) : List Advice :=
  match layout? entries with
  | none => []
  | some layout =>
      if 1 < focusCount layout then
        [advice "preset.layout" .high "More than one pane sets focus: true"
          "Keep focus: true on a single terminal"]
      else
        []

/-- The value is a mapping with a list under the key `panes`. -/
def hasPanesList : Value → Bool
  | .mapping entries =>
      match Value.lookup entries "panes" with
      | some (.list _) => true
      | _ => false
  | _ => false

/-- No layout, or a layout without a list of panes. -/
def shapeAdvice (entries : List (Value × Value)) : List Advice :=
  match layout? entries with
  | none =>
      [advice "preset.layout" .low
        "No layout defined; the preset opens a single pane"
        "Add a layout tree if the preset should open more than one pane"]
  | some layout =>
      if hasPanesList layout then
        []
      else
        [advice "preset.layout.panes" .low "Layout has no panes list"
          ("Add a split with a panes list, or keep the layout as a single " ++
            "terminal")]

/-- The label under which a diagnosed preset is prepared. -/
def sourceLabel : String := "diagnose"

/-- The failure of preparing a preset, reported where it happened. -/
def preparationAdvice (preset : Value) : Except Fault (List Advice) :=
  match Prepared.ofValue sourceLabel preset with
  | .ok _ => .ok []
  | .error (.fault cause) => .error cause
  | .error (.failure failure) =>
      let path := failure.path.getD ""
      .ok [advice (if path = "" then "preset" else path) .high
        ("[" ++ failure.code ++ "] " ++ failure.message)
        "Fix the reported error, then check the result with 'panecraft plan'"]

/-- What is wrong with a preset.  It is prepared only if its structure shows
nothing severe. -/
def presetAdvice (preset : Value) : Except Fault (List Advice) :=
  match preset with
  | .mapping entries => do
      let structural := focusAdvice entries ++ shapeAdvice entries
      if structural.any fun item => item.finding.severity == .high then
        return structural
      else
        return structural ++ (← preparationAdvice preset)
  | _ =>
      return [advice "preset" .high "Preset definition is not a mapping"
        "Rewrite the preset as a mapping with name and layout keys"]

/-- Issues that are known beforehand; blank ones do not count. -/
def issueAdvice : Nat → List String → List Advice
  | _, [] => []
  | index, issue :: issues =>
      let text := trimmed issue
      let rest := issueAdvice (index + 1) issues
      if text = "" then
        rest
      else
        advice ("knownIssues[" ++ toString index ++ "]") .medium text
          ("Track and resolve: " ++ text) :: rest

/-- Diagnoses a document value. -/
def ofValue (preset : Value) (knownIssues : List String) :
    Except Fault Report := do
  let advices ← presetAdvice preset
  return (addAll {} (advices ++ issueAdvice 0 knownIssues)).report

/-- The report on a document that cannot be read, for the given reason. -/
def unreadable (reason : String) : Report :=
  (addAll {} [advice "presetDocument" .high
    ("Failed to parse preset YAML: " ++ reason)
    "Fix the YAML syntax of the preset"]).report

end Diagnosis

end PaneLayout
