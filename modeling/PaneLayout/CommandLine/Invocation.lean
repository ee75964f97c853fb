import PaneLayout.CommandLine.Options
import PaneLayout.WindowMode

/-!
# Invocations

What a command line asks for: to apply a preset, to show its plan, to diagnose
it, to list the presets of a configuration, or to create one.
-/

namespace PaneLayout

/-- Which preset is meant. -/
structure PresetChoice where
  /-- A key of the configuration. -/
  preset : Option String
  /-- A file that holds a preset, instead. -/
  file : Option String
  /-- The configuration file, if it is not the usual one. -/
  config : Option String
deriving Repr, BEq, DecidableEq, Inhabited

/-- How to apply a preset. -/
structure ApplyOptions where
  choice : PresetChoice
  dryRun : Bool
  windowMode : Option WindowMode
  windowName : Option String
  /-- Panes are closed without asking. -/
  assumesYes : Bool
deriving Repr, BEq, DecidableEq, Inhabited

/-- What a command line asks for. -/
inductive Invocation where
  | version
  | help
  /-- The command line makes no sense. -/
  | misuse
  | apply (options : ApplyOptions)
  | plan (choice : PresetChoice)
  | diagnose (choice : PresetChoice) (knownIssues : List String)
  | list (config : Option String)
  | initConfig (config : Option String)
deriving Repr, BEq, DecidableEq, Inhabited

namespace Invocation

open CommandLine

def helpForm : OptionForm := ⟨"help", none, false⟩

def configForm : OptionForm := ⟨"config", some 'C', true⟩

def fileForm : OptionForm := ⟨"file", some 'f', true⟩

/-- The options before the name of a command. -/
def programForms : List OptionForm := [⟨"version", none, false⟩, helpForm]

def applyForms : List OptionForm :=
  [fileForm, configForm, ⟨"dry-run", some 'n', false⟩,
   ⟨"current-window", none, false⟩, ⟨"window-mode", some 'w', true⟩,
   ⟨"window-name", none, true⟩, ⟨"yes", some 'y', false⟩,
   ⟨"verbose", some 'v', false⟩, helpForm]

def planForms : List OptionForm := [fileForm, configForm, helpForm]

def diagnoseForms : List OptionForm :=
  [fileForm, configForm, ⟨"known-issue", some 'k', true⟩, helpForm]

def configForms : List OptionForm := [configForm, helpForm]

/-- Reads the words after the name of a command, of which at most `limit` are no
options. -/
def ofWords (forms : List OptionForm) (limit : Nat)
    (make : Parsed → Option Invocation) (words : List String) : Invocation :=
  match readWords forms true words with
  | none => .misuse
  | some parsed =>
      if parsed.has "help" then
        .help
      else if limit < parsed.words.length then
        .misuse
      else
        (make parsed).getD .misuse

/-- The preset that a command line chooses. -/
def choice (parsed : Parsed) : PresetChoice where
  preset := parsed.words.head?
  file := parsed.value? "file"
  config := parsed.value? "config"

/-- The window modes that were given, each of which must exist. -/
def givenMode (parsed : Parsed) : Option (Option WindowMode) :=
  match parsed.value? "window-mode" with
  | none => some none
  | some name => (WindowMode.ofName? name).map some

/-- How a command line wants a preset to be applied. -/
def applyOptions (parsed : Parsed) : Option Invocation := do
  let mode ← givenMode parsed
  pure (.apply {
    choice := choice parsed
    dryRun := parsed.has "dry-run"
    windowMode :=
      if parsed.has "current-window" then some .currentWindow else mode
    windowName := parsed.value? "window-name"
    assumesYes := parsed.has "yes" })

/-- What a command and the words after it ask for. -/
def ofCommand (command : String) (words : List String) : Invocation :=
  match command with
  | "apply" => ofWords applyForms 1 applyOptions words
  | "plan" => ofWords planForms 1 (fun parsed => some (.plan (choice parsed))) words
  | "diagnose" =>
      ofWords diagnoseForms 1 (fun parsed =>
        some (.diagnose (choice parsed) (parsed.values "known-issue"))) words
  | "list" =>
      ofWords configForms 0 (fun parsed => some (.list (parsed.value? "config"))) words
  | "init-config" =>
      ofWords configForms 0 (fun parsed =>
        some (.initConfig (parsed.value? "config"))) words
  | _ => .misuse

/-- What a command line asks for. -/
def ofArguments (arguments : List String) : Invocation :=
  match readWords programForms false arguments with
  | none => .misuse
  | some parsed =>
      if parsed.has "version" then
        .version
      else if parsed.has "help" then
        .help
      else
        match parsed.words with
        | [] => .misuse
        | command :: words => ofCommand command words

end Invocation

end PaneLayout
