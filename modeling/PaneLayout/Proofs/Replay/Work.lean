import PaneLayout.Proofs.Replay.Call

/-!
# What a replay is working on

A replay processes one thing after another: it acquires a window for the initial
pane, carries out each step, configures each terminal, and restores the focus.
The work log of a run tells, for each of its commands, what was being processed
when it was sent.
-/

namespace PaneLayout

namespace Replay

/-- What a replay is working on. -/
inductive Work where
  | acquire (initialId : String)
  | execute (step : Step)
  | configure (terminal : EmittedTerminal)
  | restoreFocus (focusId : String)

namespace Work

/-- The id of what is being processed.  Only a step that cannot be replayed may
have none. -/
def id? : Work → Option String
  | .acquire initialId => some initialId
  | .execute (.split step) => some step.id
  | .execute (.focus step) => some step.id
  | .execute (.unsupported _ id) => id
  | .configure terminal => some terminal.virtualPaneId
  | .restoreFocus focusId => some focusId

/-- The calls that a work consists of. -/
inductive Calls (request : ReplayRequest) : Work → CallSite → Prop where
  | acquire {initialId : String} {site : CallSite} :
      AcquiringCall request initialId site →
      Calls request (.acquire initialId) site
  | execute {step : Step} {site : CallSite} :
      StepCall step site → Calls request (.execute step) site
  | configure {terminal : EmittedTerminal} {pane : String} {site : CallSite} :
      TerminalCall terminal pane site →
      Calls request (.configure terminal) site
  | restoreFocus {focusId : String} {site : CallSite} :
      FocusCall focusId site → Calls request (.restoreFocus focusId) site

/-- A call site reports failures under the id of what is being processed. -/
theorem Calls.path_eq {request : ReplayRequest} {work : Work}
    {site : CallSite} (call : Calls request work site) :
    work.id? = some site.path := by
  cases call with
  | acquire call => cases call <;> rfl
  | execute call => cases call <;> rfl
  | configure call => cases call <;> rfl
  | restoreFocus call =>
      cases call
      rfl

end Work

section Log

variable {State : Type} (request : ReplayRequest) (server : Server State)
  (consent : List String → Option Value)

/-- What is worked on after a run that returned a value. -/
def workAfter {α : Type} (run : Run ReplayError α State)
    (later : α → State → List Work) : List Work :=
  match run.ending with
  | .returned value => later value run.state
  | _ => []

/-- Each command of a run is credited to one work; what comes later depends on
the value and on the state. -/
def credited {α : Type} (work : Work) (run : Run ReplayError α State)
    (later : α → State → List Work) : List Work :=
  run.commands.map (fun _ => work) ++ workAfter run later

/-- The work log of steps in order. -/
def stepLog (later : PaneMap → State → List Work) :
    PaneMap → List Step → State → List Work
  | panes, [], state => later panes state
  | panes, step :: steps, state =>
      credited (.execute step)
        ((executeStep request panes step).run server consent state)
        fun panes state => stepLog later panes steps state

/-- The work log of terminals in order. -/
def terminalLog (focusPane : String) (named : Entries String)
    (later : PaneMap → State → List Work) :
    PaneMap → List EmittedTerminal → State → List Work
  | panes, [], state => later panes state
  | panes, terminal :: terminals, state =>
      match panes.resolve terminal.virtualPaneId with
      | (none, _) => []
      | (some realId, panes) =>
          credited (.configure terminal)
            ((configure request terminal ⟨realId, focusPane, named⟩).run server
              consent state)
            fun _ state =>
              terminalLog focusPane named later panes terminals state

/-- The work log of restoring the focus. -/
def focusLog (focusId : String) (panes : PaneMap) (state : State) :
    List Work :=
  credited (.restoreFocus focusId)
    ((restoreFocus focusId panes).run server consent state) fun _ _ => []

/-- The work log of configuring all terminals and restoring the focus. -/
def configurationLog (terminals : List EmittedTerminal) (focusId : String)
    (panes : PaneMap) (state : State) : List Work :=
  match panes.get? focusId with
  | none => []
  | some focusPane =>
      let (resolved, panes) := resolvePanes panes terminals
      let named := Template.namedPanes terminals (Entries.ofList resolved)
      terminalLog request server consent focusPane named
        (focusLog server consent focusId) panes terminals state

end Log

end Replay

/-- What a replay was working on when it sent each of its commands. -/
def Emission.workLog {State : Type} (emission : Emission)
    (request : ReplayRequest) (server : Server State)
    (consent : List String → Option Value) (state : State) :
    List Replay.Work :=
  let initialId := emission.summary.initialPaneId
  let focusId := emission.summary.focusPaneId
  if initialId = "" then
    []
  else
    match WindowMode.ofName? request.mode with
    | none => []
    | some mode =>
        Replay.credited (.acquire initialId)
          ((Replay.acquire request initialId mode).run server consent state)
          fun initial state =>
            Replay.stepLog request server consent
              (Replay.configurationLog request server consent
                emission.terminals focusId)
              (PaneMap.empty.register initialId initial) emission.steps state

end PaneLayout
