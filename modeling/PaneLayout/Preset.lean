import PaneLayout.Ratio

/-!
# Presets

A preset names a layout: a tree whose leaves are terminals and whose inner nodes
divide their area among their children.  A preset without a layout stands for a
single terminal that runs the preset's own command.
-/

namespace PaneLayout

/-- Which way a split divides its area. -/
inductive Orientation where
  | horizontal
  | vertical
deriving Repr, BEq, DecidableEq, Inhabited

namespace Orientation

def name : Orientation → String
  | .horizontal => "horizontal"
  | .vertical => "vertical"

def ofName? (name : String) : Option Orientation :=
  if name = "horizontal" then some .horizontal
  else if name = "vertical" then some .vertical
  else none

/-- The option that asks for a split of this orientation. -/
def flag : Orientation → String
  | .horizontal => "-h"
  | .vertical => "-v"

/-- The option for a named orientation; a name of none counts as vertical. -/
def flagOf (name : String) : String :=
  ((ofName? name).getD .vertical).flag

/-- The format that asks for the size of a pane along the split. -/
def sizeFormat : Orientation → String
  | .horizontal => "#\x7bpane_width\x7d"
  | .vertical => "#\x7bpane_height\x7d"

end Orientation

/-- What a pane runs and how it is set up. -/
structure Terminal where
  name : String := ""
  command : Option String := none
  /-- The working directory. -/
  cwd : Option String := none
  env : Option (Entries String) := none
  focus : Bool := false
  /-- The pane closes when its command has ended well. -/
  ephemeral : Bool := false
  /-- An ephemeral pane closes also when its command has failed. -/
  closeOnError : Bool := false
  /-- Milliseconds to wait before the command is typed. -/
  delay : Option Int := none
  title : Option String := none
  /-- Settings that the program carries along without using them. -/
  options : Option (Entries Value) := none
deriving Repr, BEq, Inhabited

/-- A tree of terminals. -/
inductive Layout where
  | terminal (leaf : Terminal)
  | split (orientation : Orientation) (ratio : Ratio) (panes : List Layout)
deriving Repr, BEq, Inhabited

/-- A preset whose layout is well formed. -/
structure Preset where
  name : String
  version : String := "legacy"
  command : Option String := none
  layout : Option Layout := none
  /-- The label of the place that the preset came from. -/
  source : String
deriving Repr, BEq, Inhabited

/-- A text or null. -/
def Value.ofText? : Option String → Value
  | some value => .text value
  | none => .null

/-- A record from its fields. -/
def Value.record (fields : Entries Value) : Value :=
  .mapping (fields.map fun (key, value) => (.text key, value))

namespace Terminal

/-- The fields of a terminal. -/
def fields (terminal : Terminal) : Entries Value :=
  [("kind", .text "terminal"),
    ("name", .text terminal.name),
    ("command", .ofText? terminal.command),
    ("cwd", .ofText? terminal.cwd),
    ("env", match terminal.env with
      | some env => .record (env.map fun (key, value) => (key, .text value))
      | none => .null),
    ("focus", .bool terminal.focus),
    ("ephemeral", .bool terminal.ephemeral),
    ("close_on_error", .bool terminal.closeOnError),
    ("delay", match terminal.delay with
      | some delay => .int delay
      | none => .null),
    ("title", .ofText? terminal.title),
    ("options", match terminal.options with
      | some options => .record options
      | none => .null)]

end Terminal

namespace Layout

mutual

/-- The record of a layout. -/
def toValue : Layout → Value
  | .terminal leaf => .record leaf.fields
  | .split orientation ratio panes =>
      .record [
        ("kind", .text "split"),
        ("orientation", .text orientation.name),
        ("ratio", .list (ratio.map RatioEntry.toValue)),
        ("panes", .list (toValueList panes))]

def toValueList : List Layout → List Value
  | [] => []
  | pane :: panes => pane.toValue :: toValueList panes

/-- The terminals of a layout in depth-first order. -/
def terminals : Layout → List Terminal
  | .terminal leaf => [leaf]
  | .split _ _ panes => terminalsList panes

def terminalsList : List Layout → List Terminal
  | [] => []
  | pane :: panes => pane.terminals ++ terminalsList panes

end

end Layout

/-- The record of a preset. -/
def Preset.toValue (preset : Preset) : Value :=
  .record [
    ("name", .text preset.name),
    ("version", .text preset.version),
    ("command", .ofText? preset.command),
    ("layout", match preset.layout with
      | some layout => layout.toValue
      | none => .null),
    ("metadata", .record [("source", .text preset.source)])]

end PaneLayout
