import PaneLayout.CommandLine.Invocation
import PaneLayout.CommandLine.Prompt
import PaneLayout.CommandLine.Job
import PaneLayout.Config.Listing
import PaneLayout.Config.Saved
import PaneLayout.Config.WarningPanel
import PaneLayout.Diagnosis.Findings
import PaneLayout.Preset.Document
import PaneLayout.Replay
import PaneLayout.Server.Rehearsal

/-!
# The program

Every command is a job in given surroundings: the variables of the environment,
the files that can be seen, the lines of the input, and a window server.  A
preset comes from a file or from the configuration.  Applying it in a dry run
previews the steps and replays them in a rehearsal; otherwise the server carries
them out.
-/

namespace PaneLayout

/-- What the program finds when it starts. -/
structure Surroundings where
  environment : Environment
  /-- What lies at a path. -/
  lookUp : Path → Location
  /-- The lines of the input. -/
  input : List String
  /-- The longest wait in milliseconds that the clock can time, if it has one. -/
  longestWait : Option Nat := ReplayRequest.longestWait {}

namespace Surroundings

/-- The variable that names the pane in which the program runs. -/
def paneVariable : String := "TMUX_PANE"

/-- The pane in which the program says it runs. -/
def pane (surroundings : Surroundings) : Option String :=
  Entries.get? paneVariable surroundings.environment

/-- The program runs inside a window server. -/
def isInsideServer (surroundings : Surroundings) : Bool :=
  (Entries.get? "TMUX" surroundings.environment).isSome

/-- The path of the configuration file: the given one or the usual one. -/
def configPath (surroundings : Surroundings) (given : Option String) : Path :=
  match given with
  | some text => Path.ofText text
  | none => surroundings.environment.configFile

end Surroundings

namespace Program

open Job

/-- The line about the version. -/
def versionLine : String := programName ++ " 0.3.0"

/-- How to call the program. -/
def usage : String :=
  "Usage: " ++ programName ++
    " [--version] apply|plan|diagnose|list|init-config [OPTIONS] [PRESET]\n"

/-- Loads the configuration and shows its warnings. -/
def loadConfig (surroundings : Surroundings) (path : Path) : Job Config := do
  let (config, warnings) ←
    Config.load .standard path.text (surroundings.lookUp path)
  for line in ← ConfigWarning.panel terminalWidth warnings do
    writeError (line ++ "\n")
  return config

/-- The text of a preset file. -/
def readPresetFile (surroundings : Surroundings) (path : Path) :
    Job String := do
  match ← (surroundings.lookUp path).read with
  | .ok text => return text
  | .error error =>
      printError ("[red]Error:[/] Cannot read preset file " ++ path.text ++
        ": " ++ error.message path.text)
      exit 1

/-- A preset of which nothing but the document value is known, with its label. -/
structure ChosenPreset where
  source : String
  value : Value

/-- The chosen preset of the configuration. -/
def configuredPreset (config : Config) (configPath : Path)
    (name : Option String) : Job ChosenPreset :=
  match config.select name with
  | .error error => fail error.failure
  | .ok key =>
      return {
        source := Config.sourceLabel configPath.text key
        value := .mapping ((Entries.get? key config.presets).getD []) }

/-- The chosen preset: the one of a file, or else one of the configuration. -/
def chosenPreset (surroundings : Surroundings) (config : Config)
    (choice : PresetChoice) : Job ChosenPreset :=
  match choice.file with
  | some file => do
      let path := Path.ofText file
      let text ← readPresetFile surroundings path
      return ⟨path.text, ← ofProblem (Preset.documentValue path.text text)⟩
  | none =>
      configuredPreset config (surroundings.configPath choice.config)
        choice.preset

/-! ### Applying a preset -/

/-- The question whether other panes may be closed. -/
def closingQuestion (panes : List String) : String :=
  "Close " ++ toString panes.length ++
    " other pane(s) in the current window (" ++ ", ".intercalate panes ++ ")?"

/-- What a dry run says about panes that would be closed. -/
def closingNotice (panes : List String) : Except Fault String := do
  let notice ← markupText ("[dim]Would close " ++ toString panes.length ++
    " pane(s): " ++ ", ".intercalate panes ++ "[/]")
  writable notice

/-- A notice in the place of a question: it is shown, and the answer is yes. -/
def announce (notice : Except Fault String) : Except Fault Dialogue := do
  return ⟨some true, ← notice⟩

/-- How the question whether panes may be closed is answered.  A dry run only
says what would be closed. -/
def closingDialogue (surroundings : Surroundings) (isDryRun assumesYes : Bool)
    (panes : List String) : Except Fault Dialogue := do
  if isDryRun then
    announce (closingNotice panes)
  else if assumesYes then
    return ⟨some true, ""⟩
  else
    let question ← writable (closingQuestion panes)
    return Dialogue.ask question surroundings.input

/-- Shows the questions of a run with their answers, and how it ended. -/
def concludeRun {State : Type}
    (dialogue : List String → Except Fault Dialogue)
    (run : Run ReplayError ReplayResult State) : Job ReplayResult := do
  for panes in run.questions do
    write (← dialogue panes).transcript
  match run.ending with
  | .returned result => return result
  | .failed error => ofProblem (.error error.problem)
  | .unanswered =>
      writeError "Aborted.\n"
      exit 1

/-- The answer of a dialogue, if there is one. -/
def consentOf (dialogue : List String → Except Fault Dialogue)
    (panes : List String) : Option Value :=
  match dialogue panes with
  | .ok dialogue => dialogue.answer.map Value.bool
  | .error _ => none

/-- The preview of a dry run. -/
def previewLines (prepared : Prepared) (mode : WindowMode) : List String :=
  ("[bold]Dry run:[/] " ++ Markup.escape prepared.preset.name ++
    " (" ++ mode.name ++ ")") ::
  (prepared.emission.previewLines.map fun line => "  " ++ Markup.escape line) ++
  ["[dim]Plan hash: " ++ prepared.emission.hash ++ "[/]"]

/-- The name of a new window: the given one unless it is empty, or else the one
of the configuration. -/
def chosenWindowName (given : Option String) (defaults : Defaults) :
    Option String :=
  match given with
  | none | some "" => defaults.windowName
  | name => name

/-- Why a preset cannot be applied outside a window server. -/
def outsideServer : Failure where
  stage := "execution"
  code := "NOT_IN_TMUX_SESSION"
  message := "Must be run inside a tmux session"

/-- Applies a preset, or previews that. -/
def apply {State : Type} (surroundings : Surroundings) (server : Server State)
    (state : State) (options : ApplyOptions) : Job Unit := do
  let config ← loadConfig surroundings
    (surroundings.configPath options.choice.config)
  let chosen ← chosenPreset surroundings config options.choice
  let prepared ← ofProblem (Prepared.ofValue chosen.source chosen.value)
  let mode ← resolveWindowMode options.windowMode chosen.value config.defaults
  let request : ReplayRequest := {
    mode := mode.name
    windowName := chosenWindowName options.windowName config.defaults
    currentPane := surroundings.pane
    asks := true
    isDryRun := options.dryRun || server.isDryRun
    longestWait := surroundings.longestWait }
  let dialogue :=
    closingDialogue surroundings request.isDryRun options.assumesYes
  let replay := prepared.emission.replay request
  if options.dryRun then
    for line in previewLines prepared mode do
      print line
    let rehearsal ← Rehearsal.inPane surroundings.pane
    let result ← concludeRun dialogue
      (replay.run Rehearsal.server (consentOf dialogue) rehearsal)
    print ("[green]✓[/] Dry run replayed " ++ toString result.executedSteps ++
      " steps")
  else
    if !surroundings.isInsideServer then
      fail outsideServer
    let run := replay.run server (consentOf dialogue) state
    recordCommands run.commands
    let _ ← concludeRun dialogue run
    print ("[green]✓[/] Applied preset " ++
      Markup.escape (quoted prepared.preset.name))

/-! ### The other commands -/

/-- Prints the emission of a preset. -/
def plan (surroundings : Surroundings) (choice : PresetChoice) : Job Unit := do
  let config ← loadConfig surroundings (surroundings.configPath choice.config)
  let chosen ← chosenPreset surroundings config choice
  let prepared ← ofProblem (Prepared.ofValue chosen.source chosen.value)
  let json ← prepared.emission.toValue.saved
  write ((← json.render .indented) ++ "\n")
  print ("Plan hash: " ++ prepared.emission.hash)

/-- Prints a report under the label of its preset. -/
def printReport (label : String) (report : Report) : Job Unit := do
  print ("[bold]Diagnostics:[/] " ++ Markup.escape label)
  if report.worst.isNone then
    print "[green]✓[/] No problems found"
  else
    for line in report.backlogLines do
      print line
    print ""
    write (linesText (← report.findingsTable terminalWidth))
    for line in report.nextStepLines do
      print line

/-- Diagnoses a preset. -/
def diagnose (surroundings : Surroundings) (choice : PresetChoice)
    (knownIssues : List String) : Job Unit := do
  let configPath := surroundings.configPath choice.config
  let config ← loadConfig surroundings configPath
  match choice.file with
  | some file =>
      let path := Path.ofText file
      let text ← readPresetFile surroundings path
      printReport path.text (← Diagnosis.ofDocument text knownIssues)
  | none =>
      let chosen ← configuredPreset config configPath choice.preset
      printReport chosen.source (← Diagnosis.ofValue chosen.value knownIssues)

/-- Lists the presets of a configuration. -/
def listPresets (console : Drawing.Console) (config : Config) : Job Unit := do
  if config.presets.isEmpty then
    print ("[dim]No presets configured. Run '" ++ programName ++
      " init-config' to create one.[/]")
  else
    let rows ← config.listing
    write (linesText (← Config.listingLines console rows))

/-- Lists the presets of the configuration that is read. -/
def list (surroundings : Surroundings) (given : Option String) : Job Unit := do
  let config ← loadConfig surroundings (surroundings.configPath given)
  listPresets (.ofWidth terminalWidth) config

/-- Creates a configuration to start with.  A file that exists is left alone. -/
def initConfig (surroundings : Surroundings) (given : Option String) :
    Job Unit := do
  let directory := surroundings.environment.configDirectory
  if given.isNone then
    makeDirectory directory (surroundings.lookUp directory)
  let file := surroundings.configPath given
  if (surroundings.lookUp file).isThere then
    printError ("[yellow]Config file already exists:[/] " ++ file.text)
    exit 1
  makeDirectory file.parent (surroundings.lookUp file.parent)
  writeFile file (← Config.starter.savedText)
  print ("[green]✓[/] Created config file: " ++ file.text)

/-- The paths at which a command looks. -/
def paths (surroundings : Surroundings) : Invocation → List Path
  | .version | .help | .misuse => []
  | .apply options => choicePaths options.choice
  | .plan choice | .diagnose choice _ => choicePaths choice
  | .list given => [surroundings.configPath given]
  | .initConfig given =>
      let file := surroundings.configPath given
      [file, file.parent, surroundings.environment.configDirectory]
where
  choicePaths (choice : PresetChoice) : List Path :=
    surroundings.configPath choice.config ::
      (choice.file.map Path.ofText).toList

/-- Does what a command line asks for. -/
def perform {State : Type} (surroundings : Surroundings) (server : Server State)
    (state : State) : Invocation → Job Unit
  | .version => print versionLine
  | .help => write usage
  | .misuse => do
      writeError usage
      exit 2
  | .apply options => apply surroundings server state options
  | .plan choice => plan surroundings choice
  | .diagnose choice knownIssues => diagnose surroundings choice knownIssues
  | .list given => list surroundings given
  | .initConfig given => initConfig surroundings given

end Program

end PaneLayout
