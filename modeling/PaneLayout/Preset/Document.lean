import PaneLayout.Diagnosis
import PaneLayout.Prepared
import PaneLayout.Yaml.Document

/-!
# Presets as documents

A preset is written as a YAML document.  Text that is no document is reported
like any other mistake in a preset; a fault while reading it passes through.
-/

namespace PaneLayout

namespace Preset

/-- The failure of text that is not a document. -/
def unreadable (source reason : String) : Failure := {
  stage := "compile"
  code := "PRESET_PARSE_ERROR"
  message := "Failed to parse preset YAML: " ++ reason
  source
  details := [("reason", .text reason)] }

/-- The value that the text of a preset describes. -/
def documentValue (source text : String) : Except Problem Value :=
  match Yaml.readDocument text with
  | .ok value => .ok value
  | .error (.defect cause) => .error (.failure (unreadable source cause.message))
  | .error (.fault cause) => .error (.fault cause)

/-- The preset that a text describes. -/
def ofDocument (source text : String) : Except Problem Preset := do
  ofValue source (← documentValue source text)

end Preset

/-- Prepares the preset that a text describes. -/
def Prepared.ofDocument (source text : String) : Except Problem Prepared := do
  ofValue source (← Preset.documentValue source text)

/-- Diagnoses the preset that a text describes. -/
def Diagnosis.ofDocument (text : String) (knownIssues : List String) :
    Except Fault Report :=
  match Yaml.readDocument text with
  | .ok value => ofValue value knownIssues
  | .error (.defect cause) => .ok (unreadable cause.message)
  | .error (.fault cause) => .error cause

end PaneLayout
