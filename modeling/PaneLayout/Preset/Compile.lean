import PaneLayout.Json.Canonical
import PaneLayout.Preset

/-!
# Compiling a preset

A preset document is accepted if it is a mapping whose layout, if any, is a tree
of splits and terminals.  A split has a text `type` and a key `panes`; a
terminal has no `panes` and a text `name` or `command`.  The first violation in
pre-order is reported where it stands: the checks of a split itself come before
those of its children, and children are checked from left to right.

Fields of a terminal that have the wrong kind are ignored.  Keys that no field
uses become options of the terminal and win over its explicit `options`.
-/

namespace PaneLayout.Compile

/-- What is wrong with a preset at some place. -/
inductive Violation where
  | notMapping
  /-- The node is neither a split nor a terminal. -/
  | invalidNode (node : Value)
  | invalidOrientation (name : String)
  | panesMissing
  | ratioMissing
  | ratioMismatch (ratioLength panesLength : Nat)
  | invalidRatioEntry (entry : Value)
deriving Repr, BEq, Inhabited

namespace Violation

def code : Violation → String
  | .notMapping => "PRESET_INVALID_DOCUMENT"
  | .invalidNode _ => "LAYOUT_INVALID_NODE"
  | .invalidOrientation _ => "LAYOUT_INVALID_ORIENTATION"
  | .panesMissing => "LAYOUT_PANES_MISSING"
  | .ratioMissing => "LAYOUT_RATIO_MISSING"
  | .ratioMismatch _ _ => "LAYOUT_RATIO_MISMATCH"
  | .invalidRatioEntry _ => "RATIO_INVALID_VALUE"

def message : Violation → String
  | .notMapping => "Preset definition is not a mapping"
  | .invalidNode _ => "Layout node is neither a split nor a terminal"
  | .invalidOrientation _ => "Split type must be 'horizontal' or 'vertical'"
  | .panesMissing => "Split requires a non-empty 'panes' list"
  | .ratioMissing => "Split requires a non-empty 'ratio' list"
  | .ratioMismatch _ _ => "'ratio' and 'panes' must have the same length"
  | .invalidRatioEntry _ =>
      "Ratio entries must be positive numbers or fixed-cell tokens like '30c'"

def details : Violation → Entries Value
  | .notMapping => []
  | .invalidNode node => [("node", node)]
  | .invalidOrientation name => [("type", .text name)]
  | .panesMissing => []
  | .ratioMissing => []
  | .ratioMismatch ratioLength panesLength =>
      [("ratio_length", .int ratioLength), ("panes_length", .int panesLength)]
  | .invalidRatioEntry entry => [("value", entry)]

end Violation

/-- Why a preset was not compiled. -/
inductive Error where
  | violation (what : Violation) (path : String)
  | fault (cause : Fault)
deriving Repr, BEq, Inhabited

/-- The problem that an error is for the preset with the given label. -/
def Error.problem (source : String) : Error → Problem
  | .violation what path => .failure {
      stage := "compile"
      code := what.code
      message := what.message
      source := some source
      path := some path
      details := what.details }
  | .fault cause => .fault cause

instance : MonadLift (Except Fault) (Except Error) where
  monadLift
    | .ok value => .ok value
    | .error cause => .error (.fault cause)

/-- The place of a child of a node. -/
def childPath (path : String) (index : Nat) : String :=
  path ++ ".panes[" ++ toString index ++ "]"

/-! ### Terminals -/

/-- An assignment of an environment, unless its value is no text. -/
def assignment? : Value × Value → Except Fault (Option (String × String))
  | (key, .text value) => do return some (← key.keyText, value)
  | _ => return none

/-- The environment of a terminal: entries whose value is no text are dropped,
and an environment without entries counts as none. -/
def environment : Option Value → Except Fault (Option (Entries String))
  | some (.mapping entries) => do
      let named ← entries.filterMapM assignment?
      return if named.isEmpty then none else some (Entries.ofList named)
  | _ => return none

/-- The delay of a terminal in whole milliseconds: a finite positive number
without its fraction. -/
def delay : Option Value → Except Fault (Option Int)
  | some (.int value) => do
      let _ ← Binary64.ofInt value
      return if 0 < value then some value else none
  | some (.float value) =>
      if value.isFinite && !(value ≤ 0) then
        (Binary64.truncate value).map some
      else
        return none
  | _ => return none

/-- The keys of a terminal that have a field. -/
def terminalKeys : List String :=
  ["name", "command", "cwd", "env", "focus", "ephemeral", "closeOnError",
    "delay", "title", "options"]

/-- A key that has a field. -/
def isTerminalKey : Value → Bool
  | .text key => terminalKeys.contains key
  | _ => false

/-- The members of a JSON object as document values. -/
def memberValues : Json → Entries Value
  | .object members => members.map fun (key, json) => (key, json.toValue)
  | _ => []

/-- The options of a terminal: the explicit ones, overlaid with the entries that
no field uses.  Terminals without options have none at all. -/
def options (entries : List (Value × Value)) :
    Except Fault (Option (Entries Value)) := do
  let unused := entries.filter fun entry => !isTerminalKey entry.1
  let overlay := memberValues (← (Value.mapping unused).canonical)
  let merged ← match Value.lookup entries "options" with
    | some (.mapping explicit) => do
        let base := memberValues (← (Value.mapping explicit).canonical)
        pure (Entries.putAll base overlay)
    | _ => pure overlay
  return if merged.isEmpty then none else some merged

/-- The text under a key. -/
def textField (entries : List (Value × Value)) (key : String) : Option String :=
  (Value.lookup entries key).bind Value.text?

/-- The boolean true stands under a key. -/
def flagField (entries : List (Value × Value)) (key : String) : Bool :=
  ((Value.lookup entries key).map Value.isTrue).getD false

/-- The terminal that a mapping describes. -/
def terminal (entries : List (Value × Value)) : Except Fault Terminal := do
  let env ← environment (Value.lookup entries "env")
  let delay ← delay (Value.lookup entries "delay")
  let options ← options entries
  return {
    name := (textField entries "name").getD ""
    command := textField entries "command"
    cwd := textField entries "cwd"
    env
    focus := flagField entries "focus"
    ephemeral := flagField entries "ephemeral"
    closeOnError := flagField entries "closeOnError"
    delay
    title := textField entries "title"
    options }

/-! ### Nodes -/

/-- How the keys of a mapping classify it as a node. -/
inductive NodeKind where
  | split (typeName : String)
  | terminal
  | neither
deriving Repr, BEq, DecidableEq

/-- The kind of node that a mapping is. -/
def nodeKind (entries : List (Value × Value)) : NodeKind :=
  let hasPanes := Value.hasKey entries "panes"
  match textField entries "type", hasPanes with
  | some typeName, true => .split typeName
  | _, true => .neither
  | _, false =>
      if (textField entries "name").isSome ||
          (textField entries "command").isSome then
        .terminal
      else
        .neither

/-- The entries of a ratio, each of which must be valid. -/
def ratioEntries (path : String) :
    Nat → List Value → Except Error Ratio
  | _, [] => return []
  | index, raw :: rest => do
      match ← RatioEntry.parse raw with
      | none => throw (.violation (.invalidRatioEntry raw)
          (path ++ ".ratio[" ++ toString index ++ "]"))
      | some entry => return entry :: (← ratioEntries path (index + 1) rest)

/-- The items under a key that must hold a list with an item in it. -/
def itemsField (entries : List (Value × Value)) (key : String) :
    Option (List Value) :=
  match Value.lookup entries key with
  | some (.list []) => none
  | some (.list items) => some items
  | _ => none

/-- What a split says about itself, apart from its children. -/
structure SplitHeader where
  orientation : Orientation
  ratio : Ratio

/-- The checks of a split, in order: orientation, panes, ratio, their lengths,
and the entries of the ratio. -/
def splitHeader (path typeName : String) (entries : List (Value × Value)) :
    Except Error SplitHeader := do
  let orientation ← match Orientation.ofName? typeName with
    | some orientation => pure orientation
    | none => throw (.violation (.invalidOrientation typeName) (path ++ ".type"))
  let panes ← match itemsField entries "panes" with
    | some panes => pure panes
    | none => throw (.violation .panesMissing (path ++ ".panes"))
  let raw ← match itemsField entries "ratio" with
    | some raw => pure raw
    | none => throw (.violation .ratioMissing (path ++ ".ratio"))
  if raw.length ≠ panes.length then
    throw (.violation (.ratioMismatch raw.length panes.length) path)
  let ratio ← ratioEntries path 0 raw
  return ⟨orientation, ratio⟩

mutual

/-- The layout that a node describes. -/
def node (path : String) : Value → Except Error Layout
  | .mapping entries =>
      match nodeKind entries with
      | .split typeName => do
          let header ← splitHeader path typeName entries
          let panes ← panesOf path entries
          return .split header.orientation header.ratio panes
      | .terminal => do return .terminal (← terminal entries)
      | .neither => throw (.violation (.invalidNode (.mapping entries)) path)
  | value => throw (.violation (.invalidNode value) path)

/-- The layouts of the children that stand under the key `panes`. -/
def panesOf (path : String) :
    List (Value × Value) → Except Error (List Layout)
  | [] => return []
  | (key, value) :: rest =>
      if key.isText "panes" then
        childrenOf path value
      else
        panesOf path rest

/-- The layouts of the items of a list. -/
def childrenOf (path : String) : Value → Except Error (List Layout)
  | .list items => nodes path 0 items
  | _ => return []

/-- The layouts of children from an index on. -/
def nodes (path : String) (index : Nat) :
    List Value → Except Error (List Layout)
  | [] => return []
  | item :: items => do
      let first ← node (childPath path index) item
      return first :: (← nodes path (index + 1) items)

end

/-- The name of a preset that gives itself none. -/
def defaultName : String := "Unnamed preset"

/-- The place of a layout in its preset. -/
def layoutPath : String := "preset.layout"

/-- The layout of a preset, if it has one that is not null. -/
def layout (entries : List (Value × Value)) : Except Error (Option Layout) :=
  match Value.lookup entries "layout" with
  | none => return none
  | some .null => return none
  | some value => (node layoutPath value).map some

/-- The name of a preset: a text that is not blank. -/
def presetName (entries : List (Value × Value)) : String :=
  match textField entries "name" with
  | some name => if isBlankText name then defaultName else name
  | none => defaultName

/-- Compiles a document value. -/
def compile (source : String) : Value → Except Error Preset
  | .mapping entries => do
      let layout ← layout entries
      return {
        name := presetName entries
        command := textField entries "command"
        layout
        source }
  | _ => throw (.violation .notMapping "preset")

end PaneLayout.Compile

namespace PaneLayout

/-- The preset that a document value describes. -/
def Preset.ofValue (source : String) (value : Value) :
    Except Problem Preset :=
  match Compile.compile source value with
  | .ok preset => .ok preset
  | .error error => .error (error.problem source)

end PaneLayout
