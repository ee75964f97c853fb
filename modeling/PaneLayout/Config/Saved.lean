import PaneLayout.Config.Load
import PaneLayout.Yaml.Written

/-!
# Saving a configuration

A configuration is saved as a YAML document.  Settings that are not made are
left out; the presets are saved in a form that JSON could write too.
-/

namespace PaneLayout

namespace Defaults

/-- The settings that are made. -/
def saved (defaults : Defaults) : Entries Json :=
  (defaults.windowMode.map fun mode => ("window_mode", Json.text mode.name)).toList ++
  (defaults.windowName.map fun name => ("window_name", Json.text name)).toList

end Defaults

namespace Config

/-- The form in which a configuration is saved. -/
def saved (config : Config) : Except Fault (Entries Json) := do
  let presets ← config.presets.mapM fun (key, entries) => do
    return (key, ← (Value.mapping entries).saved)
  return [("defaults", .object config.defaults.saved), ("presets", .object presets)]

/-- The text of a saved configuration. -/
def savedText (config : Config) : Except Fault String := do
  Yaml.documentText (← config.saved)

/-- A mapping with text keys. -/
def entriesOf (entries : List (String × Value)) : Value :=
  .mapping (entries.map fun (key, value) => (.text key, value))

/-- The layout of the preset that a new configuration contains. -/
def starterLayout : Value :=
  entriesOf [
    ("type", .text "horizontal"),
    ("ratio", .list [.int 2, .int 1]),
    ("panes", .list [
      entriesOf [
        ("name", .text "editor"),
        ("command", .text "$\x7bEDITOR:-vim\x7d ."),
        ("focus", .bool true)],
      entriesOf [
        ("type", .text "vertical"),
        ("ratio", .list [.int 1, .int 1]),
        ("panes", .list [
          entriesOf [("name", .text "shell")],
          entriesOf [
            ("name", .text "git"),
            ("command", .text "git status")]])]])]

/-- The configuration to start with. -/
def starter : Config where
  defaults := { windowMode := some .newWindow }
  presets := [("default", [
    (.text "name", .text "Development"),
    (.text "layout", starterLayout)])]

/-- Two configurations have the same settings and the same presets, in any
order. -/
def agrees (left right : Config) : Bool :=
  let presetsOf := fun config : Config =>
    entriesOf (config.presets.map fun (key, entries) => (key, .mapping entries))
  left.defaults == right.defaults && (presetsOf left).agrees (presetsOf right)

end Config

end PaneLayout
