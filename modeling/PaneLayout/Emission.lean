import PaneLayout.Digest
import PaneLayout.Json.Canonical
import PaneLayout.Plan

/-!
# Emissions

An emission is a plan as an ordered list of steps.  A window starts as a single
pane, which holds the leftmost terminal.  Each split step divides the pane of one
child to make the pane of the next; a split's own steps come before those of its
children.  One focus step ends the list.

An emission also lists how each terminal is configured, and it carries a digest
of the plan and the steps.
-/

namespace PaneLayout

/-- What stands for a size that is only known when a step is replayed. -/
def dynamicSizePlaceholder : String := "<dynamic>"

/-- The size of the pane that a split makes. -/
inductive Sizing where
  | percent (percentage : Int)
  | dynamic (sizing : DynamicSizing)
deriving Repr, DecidableEq

namespace Sizing

def toValue : Sizing → Value
  | .percent percentage =>
      .record [("mode", .text "percent"), ("percentage", .int percentage)]
  | .dynamic sizing => sizing.toValue

end Sizing

/-- A step that divides the target pane to make another one.  A step that was
written by hand may lack anything but its id and its summary. -/
structure SplitStep where
  id : String
  summary : String
  /-- The command with ids of the plan in place of real panes. -/
  command : List String := []
  targetPaneId : Option String := none
  createdPaneId : Option String := none
  orientation : Option Orientation := none
  percentage : Option Int := none
  sizing : Option Sizing := none
deriving Repr, DecidableEq

/-- A step that makes the target pane active. -/
structure FocusStep where
  id : String
  summary : String
  command : List String := []
  targetPaneId : Option String := none
deriving Repr, DecidableEq

inductive Step where
  | split (step : SplitStep)
  | focus (step : FocusStep)
  /-- A step of a kind that cannot be replayed. -/
  | unsupported (kind : String) (id : Option String)
deriving Repr, DecidableEq

namespace Step

def summary : Step → String
  | .split step => step.summary
  | .focus step => step.summary
  | .unsupported _ _ => ""

def command : Step → List String
  | .split step => step.command
  | .focus step => step.command
  | .unsupported _ _ => []

/-- The record of a step. -/
def toValue : Step → Value
  | .split step =>
      .record [
        ("kind", .text "split"),
        ("id", .text step.id),
        ("summary", .text step.summary),
        ("command", .list (step.command.map .text)),
        ("target_pane_id", .ofText? step.targetPaneId),
        ("created_pane_id", .ofText? step.createdPaneId),
        ("orientation", .ofText? (step.orientation.map Orientation.name)),
        ("percentage", match step.percentage with
          | some percentage => .int percentage
          | none => .null),
        ("sizing", match step.sizing with
          | some sizing => sizing.toValue
          | none => .null)]
  | .focus step =>
      .record [
        ("kind", .text "focus"),
        ("id", .text step.id),
        ("summary", .text step.summary),
        ("command", .list (step.command.map .text)),
        ("target_pane_id", .ofText? step.targetPaneId)]
  | .unsupported kind id =>
      .record [("kind", .text kind), ("id", .ofText? id)]

end Step

/-- How a terminal is configured once its pane exists. -/
structure EmittedTerminal where
  virtualPaneId : String
  name : String
  command : Option String := none
  cwd : Option String := none
  env : Option (Entries String) := none
  delay : Option Int := none
  title : Option String := none
  focus : Bool := false
  ephemeral : Bool := false
  closeOnError : Bool := false
deriving Repr, DecidableEq

namespace EmittedTerminal

/-- The configuration of a planned terminal. -/
def ofPlanned (entry : String × Terminal) : EmittedTerminal where
  virtualPaneId := entry.1
  name := entry.2.name
  command := entry.2.command
  cwd := entry.2.cwd
  env := entry.2.env
  delay := entry.2.delay
  title := entry.2.title
  focus := entry.2.focus
  ephemeral := entry.2.ephemeral
  closeOnError := entry.2.closeOnError

def toValue (terminal : EmittedTerminal) : Value :=
  .record [
    ("virtual_pane_id", .text terminal.virtualPaneId),
    ("name", .text terminal.name),
    ("command", .ofText? terminal.command),
    ("cwd", .ofText? terminal.cwd),
    ("env", match terminal.env with
      | some env => .record (env.map fun (key, value) => (key, .text value))
      | none => .null),
    ("delay", match terminal.delay with
      | some delay => .int delay
      | none => .null),
    ("title", .ofText? terminal.title),
    ("focus", .bool terminal.focus),
    ("ephemeral", .bool terminal.ephemeral),
    ("close_on_error", .bool terminal.closeOnError)]

end EmittedTerminal

/-- The headline numbers of an emission. -/
structure EmissionSummary where
  stepsCount : Nat
  focusPaneId : String
  /-- The id of the terminal that occupies the window before any split. -/
  initialPaneId : String
deriving Repr, DecidableEq

structure Emission where
  steps : List Step
  terminals : List EmittedTerminal
  summary : EmissionSummary
  hash : String
deriving Repr, DecidableEq

namespace PlanNode

/-- Size arguments, percentage and sizing of one split step. -/
structure StepSize where
  arguments : List String
  percentage : Option Int
  sizing : Sizing

/-- The size of the pane that a split step makes. -/
def stepSize (ratio : Ratio) (index : Nat) : Except Fault StepSize := do
  if ratio.hasFixedCells then
    let sizing ← ratio.dynamicSizing index
    return ⟨["-l", dynamicSizePlaceholder], none, .dynamic sizing⟩
  else
    let percentage ← splitPercentage ratio.weights index
    return ⟨["-p", toString percentage], some percentage, .percent percentage⟩

/-- The step that makes the pane of one child out of the pane before it. -/
def splitStep (id : String) (orientation : Orientation) (ratio : Ratio)
    (index : Nat) (target created : String) : Except Fault Step := do
  let size ← stepSize ratio index
  return .split {
    id := id ++ ":split:" ++ toString index
    summary := "split " ++ target ++ " (" ++ orientation.flag ++ ")"
    command := ["split-window", orientation.flag, "-t", target] ++ size.arguments
    targetPaneId := some target
    createdPaneId := some created
    orientation := some orientation
    percentage := size.percentage
    sizing := some size.sizing }

/-- The steps of a split itself, from one child to the next. -/
def ownSteps (id : String) (orientation : Orientation) (ratio : Ratio) :
    Nat → List String → Except Fault (List Step)
  | index, target :: created :: rest => do
      let first ← splitStep id orientation ratio index target created
      return first :: (← ownSteps id orientation ratio (index + 1) (created :: rest))
  | _, _ => return []

mutual

/-- The split steps of a node: its own, then those of its children. -/
def splitSteps : PlanNode → Except Fault (List Step)
  | .terminal _ _ => return []
  | .split id orientation ratio panes => do
      let own ← ownSteps id orientation ratio 1 (panes.map PlanNode.id)
      return own ++ (← splitStepsList panes)

def splitStepsList : List PlanNode → Except Fault (List Step)
  | [] => return []
  | pane :: panes => do
      let first ← pane.splitSteps
      return first ++ (← splitStepsList panes)

end

mutual

/-- The id of the leftmost leaf.  A split without children has none. -/
def initialPaneId : PlanNode → Except Fault String
  | .terminal id _ => return id
  | .split _ _ _ panes => initialPaneIdList panes

def initialPaneIdList : List PlanNode → Except Fault String
  | [] => throw .missingElement
  | pane :: _ => pane.initialPaneId

end

end PlanNode

namespace Plan

/-- The step that makes the focused terminal's pane active. -/
def focusStep (plan : Plan) : FocusStep where
  id := plan.focusPaneId ++ ":focus"
  summary := "select pane " ++ plan.focusPaneId
  command := ["select-pane", "-t", plan.focusPaneId]
  targetPaneId := some plan.focusPaneId

/-- What the digest of a plan is taken of. -/
def hashedValue (plan : Plan) (steps : List Step) : Value :=
  .record [
    ("focusPaneId", .text plan.focusPaneId),
    ("root", plan.root.toValue),
    ("steps", .list (steps.map Step.toValue))]

/-- The canonical text of a plan and its steps. -/
def canonicalText (plan : Plan) (steps : List Step) : Except Fault String := do
  (← (plan.hashedValue steps).saved).render .canonical

/-- The digest of a plan and its steps, which is taken of the bytes of their
canonical text. -/
def hash (plan : Plan) (steps : List Step) : Except Fault String := do
  let json ← (plan.hashedValue steps).saved
  let octets ← json.canonicalBytes
  return Digest.hexadecimal (Digest.sha256 octets)

/-- The emission of a plan. -/
def emit (plan : Plan) : Except Fault Emission := do
  let splits ← plan.root.splitSteps
  let steps := splits ++ [.focus plan.focusStep]
  let initialPaneId ← plan.root.initialPaneId
  let hash ← plan.hash steps
  return {
    steps
    terminals := plan.root.terminals.map EmittedTerminal.ofPlanned
    summary := {
      stepsCount := steps.length
      focusPaneId := plan.focusPaneId
      initialPaneId }
    hash }

end Plan

/-- The record of an emission. -/
def Emission.toValue (emission : Emission) : Value :=
  .record [
    ("steps", .list (emission.steps.map Step.toValue)),
    ("terminals", .list (emission.terminals.map EmittedTerminal.toValue)),
    ("summary", .record [
      ("steps_count", .int emission.summary.stepsCount),
      ("focus_pane_id", .text emission.summary.focusPaneId),
      ("initial_pane_id", .text emission.summary.initialPaneId)]),
    ("hash", .text emission.hash)]

end PaneLayout
