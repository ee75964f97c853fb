import PaneLayout.Failure
import PaneLayout.Path
import PaneLayout.WindowMode

/-!
# Configurations

A configuration holds named presets, as the values that describe them, and
settings for what neither the command line nor a preset decides.
-/

namespace PaneLayout

/-- Settings that apply when nothing else decides. -/
structure Defaults where
  windowMode : Option WindowMode := none
  windowName : Option String := none
deriving Repr, BEq, DecidableEq, Inhabited

/-- Settings and presets. -/
structure Config where
  defaults : Defaults := {}
  /-- The entries of each preset, by its key. -/
  presets : Entries (List (Value × Value)) := []
deriving Repr, BEq, Inhabited

namespace Config

/-- The preset that is meant when none is named. -/
def usualKey : String := "default"

/-- The keys of all presets in order. -/
def keys (config : Config) : List String :=
  Entries.keys config.presets

/-- Why no preset could be chosen. -/
inductive SelectionError where
  | unknownPreset (name : String) (available : List String)
  | noPresets
deriving Repr, BEq, DecidableEq

/-- The explanation of a failed choice. -/
def SelectionError.failure : SelectionError → Failure
  | unknownPreset name available => {
      stage := "compile"
      code := "PRESET_NOT_FOUND"
      message := "Preset " ++ quoted name ++ " not found"
      path := some ("presets." ++ name)
      details := [("available", .list (available.map Value.text))] }
  | noPresets => {
      stage := "compile"
      code := "PRESET_NOT_FOUND"
      message := "No presets defined"
      path := some "presets" }

/-- The key of the preset to use: the given one, else the usual one, else the
first. -/
def select (config : Config) (name : Option String) :
    Except SelectionError String :=
  match name with
  | some name =>
      if config.keys.contains name then
        .ok name
      else
        .error (.unknownPreset name config.keys)
  | none =>
      if config.keys.contains usualKey then
        .ok usualKey
      else
        match config.keys with
        | key :: _ => .ok key
        | [] => .error .noPresets

/-- The label of a preset of a configuration file. -/
def sourceLabel (file key : String) : String :=
  file ++ "#presets." ++ key

end Config

/-- The window mode that a preset asks for; other values are ignored.  A value
that cannot be looked up among the modes is a fault. -/
def presetWindowMode (preset : Value) : Except Fault (Option WindowMode) :=
  match preset with
  | .mapping entries =>
      match Value.lookup entries "windowMode" with
      | none => .ok none
      | some (.text name) => .ok (WindowMode.ofName? name)
      | some (.set _) => .ok none
      | some value =>
          if value.isHashable then .ok none else .error .unhashableValue
  | _ => .ok none

/-- The window mode to use: the one of the command line, of the preset, of the
configuration, or else a new window. -/
def resolveWindowMode (given : Option WindowMode) (preset : Value)
    (defaults : Defaults) : Except Fault WindowMode :=
  match given with
  | some mode => .ok mode
  | none => do
      match ← presetWindowMode preset with
      | some mode => pure mode
      | none => pure (defaults.windowMode.getD .newWindow)

end PaneLayout
