import PaneLayout.Config
import PaneLayout.Json.Canonical

/-!
# Checking a configuration

A configuration is read from a mapping.  Every value of a wrong kind is an
issue with a path to it; the issues come in the order of the document, those of
the settings first.

An issue need not spoil the rest: the presets that issues point at are left out,
and so is any other entry with an issue, as a whole.
-/

namespace PaneLayout

/-- A step of the path to an issue. -/
inductive IssueStep where
  | name (text : String)
  | number (value : Int)
deriving Repr, BEq, DecidableEq, Inhabited

namespace IssueStep

/-- The text of a step. -/
def text : IssueStep → String
  | .name text => text
  | .number value => toString value

/-- The step for a key.  Whole numbers of 64 bits are kept, a truth value is
zero or one, and every other key becomes the text that shows it. -/
def ofKey : Value → IssueStep
  | .text value => .name value
  | .bool value => .number (if value then 1 else 0)
  | key =>
      let shown : IssueStep := match key.display with
        | .ok shown => .name shown
        | .error _ => .name "<unprintable int object>"
      match key with
      | .int value =>
          if -0x8000000000000000 ≤ value ∧ value < 0x8000000000000000 then
            .number value
          else
            shown
      | _ => shown

/-- The step leads to a key. -/
def leadsTo (step : IssueStep) (key : Value) : Bool :=
  match step with
  | .name text => key.isText text
  | .number value => key.agrees (.int value)

/-- The step to a key itself rather than to its value. -/
def key : IssueStep := .name "[key]"

end IssueStep

/-- A value of a wrong kind in a configuration. -/
structure Issue where
  path : List IssueStep
  message : String
  value : Value
deriving Repr, BEq, Inhabited

namespace Issue

/-- The place of an issue in one text. -/
def place (issue : Issue) : String :=
  ".".intercalate (issue.path.map IssueStep.text)

end Issue

/-- A validation of entries: the configuration that they describe, or else what
is wrong with them. -/
abbrev Config.Validation := List (Value × Value) → Except (List Issue) Config

/-- A result together with the issues found on the way. -/
structure Checked (α : Type) where
  result : α
  issues : List Issue := []
deriving Repr

namespace Checked

variable {α : Type}

/-- The issues seen from further up. -/
def under (step : IssueStep) (checked : Checked α) : Checked α :=
  { checked with
    issues := checked.issues.map fun issue =>
      { issue with path := step :: issue.path } }

/-- A single issue, with a result that stands in. -/
def issue (result : α) (message : String) (value : Value) : Checked α :=
  ⟨result, [⟨[], message, value⟩]⟩

end Checked

namespace Config

/-- Text, or bytes that are UTF-8. -/
def textOf : Value → Except String String
  | .text value => .ok value
  | .bytes octets =>
      match Value.decodeText octets with
      | .ok text => .ok text
      | .error _ => .error ("Input should be a valid string, unable to parse " ++
          "raw data as a unicode string")
  | _ => .error "Input should be a valid string"

/-- Checks a text. -/
def checkText (value : Value) : Checked String :=
  match textOf value with
  | .ok text => ⟨text, []⟩
  | .error message => .issue "" message value

/-- Checks the name of a window mode. -/
def checkWindowMode (value : Value) : Checked (Option WindowMode) :=
  match (textOf value).toOption.bind WindowMode.ofName? with
  | some mode => ⟨some mode, []⟩
  | none => .issue none "Input should be 'new-window' or 'current-window'" value

/-- Checks an entry that may be missing or null. -/
def checkOptional {α : Type} (check : Value → Checked α)
    (entries : List (Value × Value)) (key : String) : Checked (Option α) :=
  match Value.lookup entries key with
  | none => ⟨none, []⟩
  | some .null => ⟨none, []⟩
  | some value =>
      let checked := (check value).under (.name key)
      ⟨some checked.result, checked.issues⟩

/-- Checks the settings. -/
def checkDefaults : Value → Checked Defaults
  | .mapping entries =>
      let mode := checkOptional checkWindowMode entries "window_mode"
      let name := checkOptional checkText entries "window_name"
      ⟨⟨mode.result.join, name.result⟩, mode.issues ++ name.issues⟩
  | value =>
      .issue {} "Input should be a valid dictionary or instance of Defaults" value

/-- Checks the keys of entries, and each value in its place. -/
def checkEntries {α : Type} (check : Value → Checked α) :
    List (Value × Value) → Checked (Entries α)
  | [] => ⟨[], []⟩
  | (key, value) :: entries =>
      let step := IssueStep.ofKey key
      let name := ((checkText key).under .key).under step
      let first := (check value).under step
      let rest := checkEntries check entries
      ⟨(name.result, first.result) :: rest.result,
        name.issues ++ first.issues ++ rest.issues⟩

/-- Checks that a value is a mapping with text keys. -/
def checkMapping {α : Type} (check : Value → Checked α) :
    Value → Checked (Entries α)
  | .mapping entries =>
      let checked := checkEntries check entries
      { checked with result := Entries.ofList checked.result }
  | value => .issue [] "Input should be a valid dictionary" value

/-- Checks a preset, whose values may be anything. -/
def checkPreset (value : Value) : Checked (List (Value × Value)) :=
  let checked := checkMapping (fun value => ⟨value, []⟩) value
  ⟨checked.result.map fun (key, value) => (.text key, value), checked.issues⟩

/-- Checks an entry of a configuration; a missing one is empty. -/
def checkPart {α : Type} (check : Value → Checked α) (missing : α)
    (entries : List (Value × Value)) (key : String) : Checked α :=
  match Value.lookup entries key with
  | none => ⟨missing, []⟩
  | some value => (check value).under (.name key)

/-- Checks the entries of a configuration. -/
def check (entries : List (Value × Value)) : Checked Config :=
  let defaults := checkPart checkDefaults {} entries "defaults"
  let presets := checkPart (checkMapping checkPreset) [] entries "presets"
  ⟨⟨defaults.result, presets.result⟩, defaults.issues ++ presets.issues⟩

/-- The configuration that entries describe, unless there are issues. -/
def ofEntries : Validation := fun entries =>
  match check entries with
  | ⟨config, []⟩ => .ok config
  | ⟨_, issues⟩ => .error issues

/-- Entries without the preset that an issue points at.  Any other entry with an
issue is left out as a whole. -/
def withoutIssue (entries : List (Value × Value)) (issue : Issue) :
    List (Value × Value) :=
  match issue.path, Value.lookup entries "presets" with
  | [], _ => entries
  | .name "presets" :: step :: _, some (.mapping presets) =>
      Value.putEntry (.text "presets")
        (.mapping (presets.filter fun preset => !step.leadsTo preset.1)) entries
  | step :: _, _ => entries.filter fun entry => !entry.1.isText step.text

/-- The configuration that entries describe, as far as they are free of issues,
and the issues. -/
def recover (validate : Validation) (entries : List (Value × Value)) :
    Config × List Issue :=
  match validate entries with
  | .ok config => (config, [])
  | .error issues =>
      match validate (issues.foldl withoutIssue entries) with
      | .ok config => (config, issues)
      | .error _ => ({}, issues)

end Config

end PaneLayout
