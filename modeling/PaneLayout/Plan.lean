import PaneLayout.Preset

/-!
# Layout plans

A plan is a layout in which every node has an id and exactly one terminal has
the focus.  The id of a node spells its position: the root is `root`, and a child
adds a dot and its index to the id of its parent.  Weights are normalized.
-/

namespace PaneLayout

/-- A node of a layout with its id. -/
inductive PlanNode where
  | terminal (id : String) (leaf : Terminal)
  | split (id : String) (orientation : Orientation) (ratio : Ratio)
      (panes : List PlanNode)
deriving Repr, BEq, Inhabited

/-- A layout with ids and the id of the terminal that has the focus. -/
structure Plan where
  root : PlanNode
  focusPaneId : String
deriving Repr, BEq, Inhabited

/-- The id of the root. -/
def rootPaneId : String := "root"

/-- The id of a child of the node with the given id. -/
def childPaneId (parent : String) (index : Int) : String :=
  parent ++ "." ++ toString index

namespace PlanNode

def id : PlanNode → String
  | .terminal id _ => id
  | .split id _ _ _ => id

mutual

/-- The terminals with their ids in depth-first order. -/
def terminals : PlanNode → List (String × Terminal)
  | .terminal id leaf => [(id, leaf)]
  | .split _ _ _ panes => terminalsList panes

def terminalsList : List PlanNode → List (String × Terminal)
  | [] => []
  | pane :: panes => pane.terminals ++ terminalsList panes

/-- The node in which the terminal with the given id has the focus and no other
terminal has. -/
def withFocus (focusPaneId : String) : PlanNode → PlanNode
  | .terminal id leaf => .terminal id { leaf with focus := id == focusPaneId }
  | .split id orientation ratio panes =>
      .split id orientation ratio (withFocusList focusPaneId panes)

def withFocusList (focusPaneId : String) : List PlanNode → List PlanNode
  | [] => []
  | pane :: panes =>
      withFocus focusPaneId pane :: withFocusList focusPaneId panes

/-- The record of a node. -/
def toValue : PlanNode → Value
  | .terminal id leaf => .record (leaf.fields ++ [("id", .text id)])
  | .split id orientation ratio panes =>
      .record [
        ("kind", .text "split"),
        ("id", .text id),
        ("orientation", .text orientation.name),
        ("ratio", .list (ratio.map RatioEntry.toValue)),
        ("panes", .list (toValueList panes))]

def toValueList : List PlanNode → List Value
  | [] => []
  | pane :: panes => pane.toValue :: toValueList panes

end

/-- The ids of the terminals in depth-first order. -/
def terminalIds (node : PlanNode) : List String :=
  node.terminals.map Prod.fst

/-- The ids of the terminals that ask for the focus. -/
def focusIds (node : PlanNode) : List String :=
  (node.terminals.filter fun entry => entry.2.focus).map Prod.fst

end PlanNode

/-- The record of a plan. -/
def Plan.toValue (plan : Plan) : Value :=
  .record [
    ("root", plan.root.toValue),
    ("focus_pane_id", .text plan.focusPaneId)]

/-- Why a preset has no plan. -/
inductive PlanError where
  /-- A ratio consists of fixed entries only. -/
  | weightMissing (path : String) (cells : List Nat)
  /-- Several terminals ask for the focus. -/
  | focusConflict (paneIds : List String)
  /-- The layout has no terminal. -/
  | noTerminals
deriving Repr, BEq, DecidableEq

namespace PlanError

def code : PlanError → String
  | .weightMissing _ _ => "RATIO_WEIGHT_MISSING"
  | .focusConflict _ => "FOCUS_CONFLICT"
  | .noTerminals => "NO_TERMINAL_PANES"

def message : PlanError → String
  | .weightMissing _ _ =>
      "A ratio with fixed-cell entries needs at least one weighted entry"
  | .focusConflict _ => "More than one pane requests focus"
  | .noTerminals => "Layout contains no terminal panes"

def path : PlanError → String
  | .weightMissing path _ => path
  | .focusConflict _ => "preset.layout"
  | .noTerminals => "preset.layout"

def details : PlanError → Entries Value
  | .weightMissing _ cells =>
      [("ratio", .list (cells.map fun (count : Nat) => Value.int count))]
  | .focusConflict paneIds =>
      [("focus_pane_ids", .list (paneIds.map Value.text))]
  | .noTerminals => []

/-- The failure that an error is for the preset with the given label. -/
def failure (source : String) (error : PlanError) : Failure where
  stage := "plan"
  code := error.code
  message := error.message
  source := some source
  path := some error.path
  details := error.details

end PlanError

namespace Layout

/-- The ratio has entries and all of them are fixed. -/
def lacksWeight (ratio : Ratio) : Bool :=
  !ratio.isEmpty && ratio.all fun entry => entry.cells?.isSome

mutual

/-- The node that a layout becomes under an id.  The first split in pre-order
whose ratio lacks a weight is an error at its path. -/
def planned (id path : String) : Layout → Except PlanError PlanNode
  | .terminal leaf => return .terminal id leaf
  | .split orientation ratio panes => do
      if lacksWeight ratio then
        throw (.weightMissing (path ++ ".ratio") ratio.fixedCells)
      let children ← plannedList id path 0 panes
      return .split id orientation ratio.normalize children

def plannedList (id path : String) (index : Nat) :
    List Layout → Except PlanError (List PlanNode)
  | [] => return []
  | pane :: panes => do
      let first ← planned (childPaneId id index)
        (path ++ ".panes[" ++ toString index ++ "]") pane
      return first :: (← plannedList id path (index + 1) panes)

end

end Layout

namespace Plan

/-- The terminal that has the focus: the one that asks for it, or the first. -/
def focusOf (root : PlanNode) : Except PlanError String :=
  match root.focusIds, root.terminalIds with
  | first :: second :: more, _ => .error (.focusConflict (first :: second :: more))
  | _, [] => .error .noTerminals
  | [asking], _ => .ok asking
  | [], first :: _ => .ok first

/-- The plan of a preset. -/
def ofPreset (preset : Preset) : Except PlanError Plan :=
  match preset.layout with
  | none => .ok {
      root := .terminal rootPaneId
        { name := preset.name, command := preset.command, focus := true }
      focusPaneId := rootPaneId }
  | some layout => do
      let root ← layout.planned rootPaneId "preset.layout"
      let focusPaneId ← focusOf root
      return { root := root.withFocus focusPaneId, focusPaneId }

end Plan

end PaneLayout
