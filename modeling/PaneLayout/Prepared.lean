import PaneLayout.Emission
import PaneLayout.Preset.Compile
import PaneLayout.Server.Client

/-!
# Prepared presets

A preset is prepared for replay in three stages: it is compiled, planned and
emitted.  The first stage that fails decides the problem.
-/

namespace PaneLayout

/-- A preset with everything that is made of it. -/
structure Prepared where
  preset : Preset
  plan : Plan
  emission : Emission
deriving Repr

namespace Prepared

/-- Plans and emits a compiled preset. -/
def ofPreset (preset : Preset) : Except Problem Prepared :=
  match Plan.ofPreset preset with
  | .error error => .error (.failure (error.failure preset.source))
  | .ok plan =>
      match plan.emit with
      | .error cause => .error (.fault cause)
      | .ok emission => .ok ⟨preset, plan, emission⟩

/-- Prepares the preset that a document value describes. -/
def ofValue (source : String) (value : Value) : Except Problem Prepared := do
  ofPreset (← Preset.ofValue source value)

end Prepared

/-- The steps of an emission as lines: what a step does, and its command. -/
def Emission.previewLines (emission : Emission) : List String :=
  emission.steps.map fun step =>
    step.summary ++ ": " ++ Client.commandLine step.command

end PaneLayout
