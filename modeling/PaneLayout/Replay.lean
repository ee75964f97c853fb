import PaneLayout.PaneMap
import PaneLayout.Ratio.Mixed
import PaneLayout.Session
import PaneLayout.Template
import PaneLayout.Text.ShellWord
import PaneLayout.WindowMode

/-!
# Replaying an emission

A replay applies an emission through a window server.  It acquires a window,
carries out the split and focus steps while it records which real pane stands
for which id, configures every terminal, and finally gives the focus to its
pane.  The first error ends the replay, and nothing is undone.

In the current window the other panes are closed first, after a question if
there is somebody to ask.  In a dry run nothing waits, and a size that cannot be
resolved is left open.
-/

namespace PaneLayout

/-- What a target pane is needed for. -/
inductive TargetRole where
  | split
  | focus
deriving Repr, BEq, DecidableEq

namespace TargetRole

def capitalized : TargetRole → String
  | .split => "Split"
  | .focus => "Focus"

def name : TargetRole → String
  | .split => "split"
  | .focus => "focus"

end TargetRole

/-- Why a replay ended early. -/
inductive ReplayError where
  | missingInitialPane
  | unknownMode (mode : String)
  /-- The question whether panes may be closed was not answered with true. -/
  | declined (panes : List String) (path : String)
  | noCurrentPane (path : String)
  /-- A command failed; the message and details are those of its purpose. -/
  | command (message : String) (details : Entries Value) (error : CallError)
      (path : String)
  | missingTarget (role : TargetRole) (stepId : String)
  | unknownTarget (role : TargetRole) (target stepId : String)
  /-- After a split the window lists no pane that it did not list before. -/
  | noNewPane (before listed : List String) (stepId : String)
  | missingOrientation (stepId : String)
  | missingPercentage (stepId : String)
  | unresolvedSize (sizing : DynamicSizing) (cells : Option Int)
      (error : SizeError) (stepId : String)
  | unsupportedStep (kind : String) (id : Option String)
  | unknownFocus (paneId : String)
  | unknownTerminal (paneId : String)
  | unknownToken (command : String) (error : TokenError) (paneId : String)
  | fault (cause : Fault)
deriving Repr, BEq

namespace ReplayError

def executionFailure (code message : String) (path : Option String)
    (details : Entries Value) : Problem :=
  .failure {
    stage := "execution"
    code
    message
    path
    details }

def texts (items : List String) : Value :=
  .list (items.map .text)

/-- The problem that an error is. -/
def problem : ReplayError → Problem
  | .missingInitialPane =>
      executionFailure "INVALID_PLAN"
        "Plan emission is missing initial pane metadata"
        (some "plan.initialPaneId") []
  | .unknownMode mode =>
      executionFailure "INVALID_PLAN" ("Unknown window mode: " ++ quoted mode)
        none [("windowMode", .text mode), ("allowed", texts WindowMode.names)]
  | .declined panes path =>
      executionFailure "USER_CANCELLED"
        "Aborted layout application for current window"
        (some path) [("panes", texts panes)]
  | .noCurrentPane path =>
      executionFailure "NOT_IN_TMUX_SESSION"
        "Unable to determine current tmux pane" (some path) []
  | .command _ details (.failure error) path =>
      executionFailure error.code error.message (some path)
        (if error.details.isEmpty then details else error.details)
  | .command message details (.other reason) path =>
      executionFailure "TMUX_COMMAND_FAILED" message (some path)
        (details.put "reason" (.text reason))
  | .missingTarget role stepId =>
      executionFailure "MISSING_TARGET"
        (role.capitalized ++ " step missing target pane metadata")
        (some stepId) []
  | .unknownTarget role target stepId =>
      executionFailure "INVALID_PANE"
        ("Unknown " ++ role.name ++ " target pane: " ++ target) (some stepId) []
  | .noNewPane before listed stepId =>
      executionFailure "INVALID_PANE" "Unable to determine newly created pane"
        (some stepId) [("before", texts before), ("after", texts listed)]
  | .missingOrientation stepId =>
      executionFailure "INVALID_PLAN" "Split step missing orientation metadata"
        (some stepId) [("orientation", .null)]
  | .missingPercentage stepId =>
      executionFailure "INVALID_PLAN" "Split step missing percentage metadata"
        (some stepId) []
  | .unresolvedSize sizing cells error stepId =>
      sizing.problem cells stepId error
  | .unsupportedStep kind id =>
      executionFailure "INVALID_PLAN" ("Unsupported step kind: " ++ kind) id []
  | .unknownFocus paneId =>
      executionFailure "INVALID_PANE" ("Unknown focus pane: " ++ paneId)
        (some paneId) []
  | .unknownTerminal paneId =>
      executionFailure "INVALID_PANE" ("Unknown terminal pane: " ++ paneId)
        (some paneId) []
  | .unknownToken line error paneId =>
      executionFailure "TEMPLATE_TOKEN_ERROR"
        ("Template token resolution failed for pane " ++ paneId ++ ": " ++
          error.message)
        (some paneId)
        [("command", .text line), ("token_type", .text TokenError.tokenType),
          ("available_panes", texts error.available)]
  | .fault cause => .fault cause

end ReplayError

/-- The circumstances of a replay. -/
structure ReplayRequest where
  /-- The name of the window mode. -/
  mode : String := WindowMode.newWindow.name
  windowName : Option String := none
  /-- The pane that the program says it runs in. -/
  currentPane : Option String := none
  /-- There is somebody to ask before panes are closed. -/
  asks : Bool := false
  isDryRun : Bool := false
  /-- The longest wait in milliseconds, if the clock has one.  A clock that counts
  nanoseconds in signed words of 64 bits does. -/
  longestWait : Option Nat := some (0x7FFFFFFFFFFFFFFF / 1000000)
deriving Repr, BEq

/-- The outcome of a replay that succeeds. -/
structure ReplayResult where
  executedSteps : Nat
  focusPaneId : String
deriving Repr, BEq, DecidableEq

namespace Replay

/-- A part of a replay. -/
abbrev Part := Session ReplayError

/-- A computation whose faults end the replay. -/
def ofFault {α : Type} : Except Fault α → Except ReplayError α
  | .ok value => .ok value
  | .error cause => .error (.fault cause)

/-- Sends a command.  If it fails, the replay ends with an error at the path. -/
def perform (command : Command) (message path : String)
    (details : Entries Value) : Part String :=
  .send command fun
    | .ok output => .done (.ok output)
    | .error error => .done (.error (.command message details error path))

/-- The details that name a command. -/
def commandDetails (command : Command) : Entries Value :=
  [("command", .list (command.map .text))]

/-- The panes of the window. -/
def listPanes (path : String) : Part (List String) := do
  let output ← perform ["list-panes", "-F", paneIdFormat]
    "Failed to list tmux panes" path []
  return listedPanes output

/-! ### Acquiring a window -/

/-- The pane that the program runs in: the one it says, the placeholder in a dry
run, or the one that the server names. -/
def currentPane (request : ReplayRequest) (path : String) : Part String := do
  let stated := trimmed (request.currentPane.getD "")
  if stated ≠ "" then
    return stated
  if request.isDryRun then
    return placeholderPane
  let output ← perform ["display-message", "-p", paneIdFormat]
    "Failed to resolve current tmux pane" path []
  let named := trimmed output
  if named = "" then
    throw (.noCurrentPane path)
  return named

/-- Asks whether panes may be closed, if there is somebody to ask.  Any answer
but the boolean true declines. -/
def confirmClosing (request : ReplayRequest) (panes : List String)
    (path : String) : Part Unit :=
  if request.asks then
    .ask panes fun answer =>
      if answer.isTrue then
        .done (.ok ())
      else
        .done (.error (.declined panes path))
  else
    .done (.ok ())

/-- Leaves only the current pane in the current window. -/
def acquireCurrentWindow (request : ReplayRequest) (path : String) :
    Part String := do
  let current ← currentPane request path
  let others := (← listPanes path).filter (· ≠ current)
  if !others.isEmpty then
    confirmClosing request others path
    let command := ["kill-pane", "-a", "-t", current]
    let _ ← perform command "Failed to close existing panes" path
      (commandDetails command)
  return current

/-- The words that name a new window, unless the name is blank. -/
def windowNameWords (windowName : Option String) : List String :=
  match windowName with
  | some name => if isBlankText name then [] else ["-n", trimmed name]
  | none => []

/-- Makes a new window. -/
def acquireNewWindow (request : ReplayRequest) (path : String) :
    Part String := do
  let output ← perform
    (["new-window", "-P", "-F", paneIdFormat] ++
      windowNameWords request.windowName)
    "Failed to create tmux window" path []
  return normalizePaneId output

/-- Records the real pane of an id. -/
def register (panes : PaneMap) (virtualId realId : String) : Part PaneMap :=
  .note virtualId realId (.done (.ok (panes.register virtualId realId)))

/-! ### Steps -/

/-- The real pane that a step is aimed at. -/
def targetPane (role : TargetRole) (stepId : String) (target : Option String)
    (panes : PaneMap) : Part (String × PaneMap) := do
  match target with
  | none | some "" => throw (.missingTarget role stepId)
  | some target =>
      match panes.resolve target with
      | (some realId, panes) => return (realId, panes)
      | (none, _) => throw (.unknownTarget role target stepId)

/-- The number of cells that a size query printed, if it is made of digits. -/
def paneCells (output : String) : Except Fault (Option Int) := do
  let raw := trimBlanks output.toList
  if !raw.isEmpty && raw.all looksLikeDigit then
    return some (Int.ofNat (← readDigits raw))
  else
    return none

/-- The text of the size for a dynamic split. -/
def dynamicSize (request : ReplayRequest) (stepId : String)
    (orientation : Orientation) (sizing : DynamicSizing) (target : String) :
    Part String := do
  let output ← perform
    ["display-message", "-p", "-t", target, orientation.sizeFormat]
    "Failed to resolve tmux pane size" stepId []
  let cells ← Session.ofExcept (ofFault (paneCells output))
  match sizing.resolve cells with
  | .ok split => do
      return ← Session.ofExcept (ofFault (wholeText split.created))
  | .error (.fault cause) => throw (.fault cause)
  | .error error =>
      if request.isDryRun then
        return dynamicSizePlaceholder
      else
        throw (.unresolvedSize sizing cells error stepId)

/-- The command that carries out a split step.  What the step says about
orientation and size counts, and not its displayed command. -/
def splitCommand (request : ReplayRequest) (step : SplitStep)
    (target : String) : Part Command := do
  match step.orientation with
  | none => throw (.missingOrientation step.id)
  | some orientation =>
      let start := ["split-window", orientation.flag, "-t", target]
      match step.sizing, step.percentage with
      | some (.dynamic sizing), _ => do
          let size ← dynamicSize request step.id orientation sizing target
          return start ++ ["-l", size]
      | some (.percent percentage), _ | none, some percentage => do
          let clamped ← Session.ofExcept
            (ofFault (Number.whole percentage).clampPercentage)
          return start ++ ["-p", toString clamped]
      | none, none => throw (.missingPercentage step.id)

/-- Carries out a split step: the pane that the window lists after the split and
did not list before is the new one. -/
def splitPane (request : ReplayRequest) (step : SplitStep) (panes : PaneMap) :
    Part PaneMap := do
  let (target, panes) ← targetPane .split step.id step.targetPaneId panes
  let before ← listPanes step.id
  let command ← splitCommand request step target
  let _ ← perform command ("Failed to execute split step " ++ step.id) step.id
    (commandDetails command)
  let listed ← listPanes step.id
  match listed.find? fun pane => !before.contains pane with
  | none => throw (.noNewPane before listed step.id)
  | some created =>
      match step.createdPaneId with
      | none | some "" => return panes
      | some virtualId => register panes virtualId created

/-- Carries out a focus step. -/
def focusPane (step : FocusStep) (panes : PaneMap) : Part PaneMap := do
  let (target, panes) ← targetPane .focus step.id step.targetPaneId panes
  let command := ["select-pane", "-t", target]
  let _ ← perform command ("Failed to execute focus step " ++ step.id) step.id
    (commandDetails command)
  return panes

/-- Carries out one step. -/
def executeStep (request : ReplayRequest) (panes : PaneMap) :
    Step → Part PaneMap
  | .split step => splitPane request step panes
  | .focus step => focusPane step panes
  | .unsupported kind id => throw (.unsupportedStep kind id)

/-- Carries out steps in order. -/
def executeSteps (request : ReplayRequest) (panes : PaneMap) :
    List Step → Part PaneMap
  | [] => return panes
  | step :: steps => do
      let panes ← executeStep request panes step
      executeSteps request panes steps

/-! ### Terminals -/

/-- Types a line into a pane. -/
def typeLine (pane line path action : String) (details : Entries Value) :
    Part Unit := do
  let _ ← perform ["send-keys", "-t", pane, line, "Enter"]
    ("Failed to " ++ action) path details
  return ()

/-- The line that a terminal runs: its command with the tokens replaced, and an
exit if the pane is ephemeral. -/
def commandLine (terminal : EmittedTerminal) (panes : TokenPanes) :
    Except ReplayError String := do
  let command := terminal.command.getD ""
  let replaced ← match Template.replace panes command with
    | .ok replaced => pure replaced
    | .error error =>
        throw (.unknownToken command error terminal.virtualPaneId)
  if !terminal.ephemeral then
    return replaced
  else if terminal.closeOnError then
    return replaced ++ "; exit"
  else
    return replaced ++ "; [ $? -eq 0 ] && exit"

/-- A wait of some milliseconds in seconds, if the clock can time it. -/
def waitSeconds (longest : Option Nat) (milliseconds : Int) :
    Except Fault Float := do
  let seconds ← Binary64.quotient milliseconds 1000
  if longest.any fun (limit : Nat) => decide (limit < milliseconds) then
    throw .waitTooLong
  else
    return seconds

/-- Waits before a command is typed; a dry run does not. -/
def waitFor (request : ReplayRequest) (delay : Option Int) : Part Unit :=
  match delay with
  | none => return ()
  | some milliseconds =>
      if milliseconds ≤ 0 ∨ request.isDryRun then
        return ()
      else
        match waitSeconds request.longestWait milliseconds with
        | .error cause => throw (.fault cause)
        | .ok seconds => .wait seconds (.done (.ok ()))

/-- Exports the variables of an environment. -/
def exportAll (pane path : String) : Entries String → Part Unit
  | [] => return ()
  | (key, value) :: rest => do
      typeLine pane ("export " ++ key ++ "=\"" ++ escapeDoubleQuotes value ++ "\"")
        path ("set " ++ key ++ " for " ++ path) []
      exportAll pane path rest

/-- Gives a pane its title, if there is one. -/
def setTitle (pane path : String) : Option String → Part Unit
  | none | some "" => return ()
  | some title => do
      let _ ← perform ["select-pane", "-t", pane, "-T", title]
        ("Failed to set pane title for pane " ++ path) path
        [("title", .text title)]
      return ()

/-- Changes the directory in a pane, if there is one to change to. -/
def enterDirectory (pane path : String) : Option String → Part Unit
  | none | some "" => return ()
  | some directory =>
      typeLine pane ("cd \"" ++ escapeDoubleQuotes directory ++ "\"") path
        ("change directory for " ++ path) []

/-- Types the line that a terminal runs, if it runs one. -/
def runCommand (request : ReplayRequest) (terminal : EmittedTerminal)
    (panes : TokenPanes) : Part Unit :=
  match terminal.command with
  | none | some "" => return ()
  | some command => do
      let line ← Session.ofExcept (commandLine terminal panes)
      waitFor request terminal.delay
      typeLine panes.thisPane line terminal.virtualPaneId
        ("execute command for pane " ++ terminal.virtualPaneId)
        [("command", .text command)]

/-- Configures the pane of a terminal: title, directory, environment, command. -/
def configure (request : ReplayRequest) (terminal : EmittedTerminal)
    (panes : TokenPanes) : Part Unit := do
  let pane := panes.thisPane
  let path := terminal.virtualPaneId
  setTitle pane path terminal.title
  enterDirectory pane path terminal.cwd
  exportAll pane path (terminal.env.getD [])
  runCommand request terminal panes

/-- The panes of those terminals that have one, recorded on the way. -/
def resolvePanes (panes : PaneMap) :
    List EmittedTerminal → Entries String × PaneMap
  | [] => ([], panes)
  | terminal :: terminals =>
      match panes.resolve terminal.virtualPaneId with
      | (some realId, panes) =>
          let (rest, panes) := resolvePanes panes terminals
          ((terminal.virtualPaneId, realId) :: rest, panes)
      | (none, panes) => resolvePanes panes terminals

/-- Configures terminals in order. -/
def configureAll (request : ReplayRequest) (focusPane : String)
    (named : Entries String) (panes : PaneMap) :
    List EmittedTerminal → Part PaneMap
  | [] => return panes
  | terminal :: terminals => do
      match panes.resolve terminal.virtualPaneId with
      | (none, _) => throw (.unknownTerminal terminal.virtualPaneId)
      | (some realId, panes) =>
          configure request terminal ⟨realId, focusPane, named⟩
          configureAll request focusPane named panes terminals

/-- Configures all terminals, once the focused pane is known. -/
def configureTerminals (request : ReplayRequest)
    (terminals : List EmittedTerminal) (focusId : String) (panes : PaneMap) :
    Part PaneMap := do
  match panes.get? focusId with
  | none => throw (.unknownFocus focusId)
  | some focusPane =>
      let (resolved, panes) := resolvePanes panes terminals
      let named := Template.namedPanes terminals (Entries.ofList resolved)
      configureAll request focusPane named panes terminals

/-- Gives the focus to its pane, since configuring may have moved it. -/
def restoreFocus (focusId : String) (panes : PaneMap) : Part Unit := do
  match panes.resolve focusId with
  | (none, _) => return ()
  | (some realId, _) =>
      let _ ← perform ["select-pane", "-t", realId] "Failed to restore focus"
        focusId []
      return ()

/-- The window of a replay, as the real pane that it starts with. -/
def acquire (request : ReplayRequest) (initialId : String) :
    WindowMode → Part String
  | .currentWindow => acquireCurrentWindow request initialId
  | .newWindow => acquireNewWindow request initialId

end Replay

/-- The session that applies an emission. -/
def Emission.replay (emission : Emission) (request : ReplayRequest) :
    Session ReplayError ReplayResult := do
  let initialId := emission.summary.initialPaneId
  let focusId := emission.summary.focusPaneId
  if initialId = "" then
    throw .missingInitialPane
  match WindowMode.ofName? request.mode with
  | none => throw (.unknownMode request.mode)
  | some mode =>
      let initial ← Replay.acquire request initialId mode
      let panes ← Replay.register .empty initialId initial
      let panes ← Replay.executeSteps request panes emission.steps
      let panes ←
        Replay.configureTerminals request emission.terminals focusId panes
      Replay.restoreFocus focusId panes
      return ⟨emission.steps.length, focusId⟩

end PaneLayout
