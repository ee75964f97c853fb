import PaneLayout.Proofs.Replay.Consent

/-!
# How far a replay has come

A performance is an emission that is replayed in given circumstances.  Between
two of its steps, and between two of its terminals, it stands at a point: what
has happened until then, what is recorded, and the state of the server.  The run
of the whole replay goes through every point, and what is left of it from there
on depends on the point alone.
-/

namespace PaneLayout

namespace Replay

/-- The end of a replay, once all terminals are configured. -/
def finish (emission : Emission) (panes : PaneMap) : Part ReplayResult := do
  restoreFocus emission.summary.focusPaneId panes
  return ⟨emission.steps.length, emission.summary.focusPaneId⟩

/-- What a replay does once its steps are carried out. -/
def conclude (emission : Emission) (request : ReplayRequest)
    (panes : PaneMap) : Part ReplayResult := do
  let panes ← configureTerminals request emission.terminals
    emission.summary.focusPaneId panes
  restoreFocus emission.summary.focusPaneId panes
  return ⟨emission.steps.length, emission.summary.focusPaneId⟩

theorem afterAcquisition_eq (emission : Emission) (request : ReplayRequest)
    (initial : String) :
    afterAcquisition emission request initial =
      .note emission.summary.initialPaneId initial
        (executeSteps request
          (PaneMap.empty.register emission.summary.initialPaneId initial)
          emission.steps >>= conclude emission request) := rfl

/-- The pane of each named terminal, as the tokens of commands see it. -/
def namedTerminals (terminals : List EmittedTerminal) (panes : PaneMap) :
    Entries String :=
  Template.namedPanes terminals
    (Entries.ofList (resolvePanes panes terminals).1)

/-- Once the focused pane is known, the terminals come in order. -/
theorem conclude_of_focused {emission : Emission} {request : ReplayRequest}
    {panes : PaneMap} {focusPane : String}
    (focused : panes.get? emission.summary.focusPaneId = some focusPane) :
    conclude emission request panes =
      configureAll request focusPane (namedTerminals emission.terminals panes)
        (resolvePanes panes emission.terminals).2 emission.terminals >>=
          finish emission := by
  rw [conclude, configureTerminals, focused]
  rfl

theorem configureAll_of_found {request : ReplayRequest}
    {terminal : EmittedTerminal} {panes : PaneMap} {realId : String}
    (found : panes.lookup terminal.virtualPaneId = some realId)
    (focusPane : String) (named : Entries String)
    (terminals : List EmittedTerminal) :
    configureAll request focusPane named panes (terminal :: terminals) =
      configure request terminal ⟨realId, focusPane, named⟩ >>= fun _ =>
        configureAll request focusPane named
          (panes.resolve terminal.virtualPaneId).2 terminals := by
  simp only [configureAll, PaneMap.resolve, found]

theorem configureAll_of_unknown {terminal : EmittedTerminal} {panes : PaneMap}
    (unknown : panes.lookup terminal.virtualPaneId = none)
    (request : ReplayRequest) (focusPane : String) (named : Entries String)
    (terminals : List EmittedTerminal) :
    configureAll request focusPane named panes (terminal :: terminals) =
      .done (.error (.unknownTerminal terminal.virtualPaneId)) := by
  simp only [configureAll, PaneMap.resolve, unknown, Session.throw_eq]

/-- An emission that is replayed in given circumstances. -/
structure Performance (State : Type) where
  emission : Emission
  request : ReplayRequest
  server : Server State
  consent : List String → Option Value
  start : State

/-- A place between two parts of a replay. -/
structure Point (State : Type) where
  /-- What has happened. -/
  events : List Event
  /-- What is recorded. -/
  panes : PaneMap
  state : State

namespace Performance

variable {State : Type} (performance : Performance State)

/-- The run of a part of the performance. -/
def runPart {α : Type} (part : Part α) (state : State) :
    Run ReplayError α State :=
  part.run performance.server performance.consent state

def run : Run ReplayError ReplayResult State :=
  performance.runPart (performance.emission.replay performance.request)
    performance.start

/-- The performance acquires a window that starts with a pane. -/
structure Acquires (events : List Event) (initial : String) (state : State) :
    Prop where
  hasInitial : performance.emission.summary.initialPaneId ≠ ""
  acquired : ∃ mode,
    WindowMode.ofName? performance.request.mode = some mode ∧
      performance.runPart
        (acquire performance.request
          performance.emission.summary.initialPaneId mode)
        performance.start = ⟨events, .returned initial, state⟩

/-- The points between the steps, with the steps that are left. -/
inductive Stepping : List Step → Point State → Prop where
  | acquired {events : List Event} {initial : String} {state : State} :
      performance.Acquires events initial state →
      Stepping performance.emission.steps
        ⟨events ++ [.noted performance.emission.summary.initialPaneId initial],
          PaneMap.empty.register performance.emission.summary.initialPaneId
            initial, state⟩
  | step {step : Step} {steps : List Step} {point : Point State}
      {events : List Event} {panes : PaneMap} {state : State} :
      Stepping (step :: steps) point →
      performance.runPart (executeStep performance.request point.panes step)
        point.state = ⟨events, .returned panes, state⟩ →
      Stepping steps ⟨point.events ++ events, panes, state⟩

/-- The names that the tokens of all commands see, from the point at which the
steps are carried out. -/
def named (built : Point State) : Entries String :=
  namedTerminals performance.emission.terminals built.panes

/-- The points between the terminals, with the terminals that are left, from the
point at which the steps are carried out. -/
inductive Configuring (built : Point State) (focusPane : String) :
    List EmittedTerminal → Point State → Prop where
  | focused : performance.Stepping [] built →
      built.panes.get? performance.emission.summary.focusPaneId =
        some focusPane →
      Configuring built focusPane performance.emission.terminals
        { built with
          panes :=
            (resolvePanes built.panes performance.emission.terminals).2 }
  | terminal {terminal : EmittedTerminal} {terminals : List EmittedTerminal}
      {point : Point State} {realId : String} {events : List Event}
      {state : State} :
      Configuring built focusPane (terminal :: terminals) point →
      point.panes.lookup terminal.virtualPaneId = some realId →
      performance.runPart
        (configure performance.request terminal
          ⟨realId, focusPane, performance.named built⟩)
        point.state = ⟨events, .returned (), state⟩ →
      Configuring built focusPane terminals
        ⟨point.events ++ events,
          (point.panes.resolve terminal.virtualPaneId).2, state⟩

/-- The run, as what happened until a point and what happens from there. -/
def Reaches (point : Point State) (rest : Part ReplayResult) : Prop :=
  let later := performance.runPart rest point.state
  performance.run = ⟨point.events ++ later.events, later.ending, later.state⟩

variable {performance}

/-- A point is passed by carrying out the first part of what is left. -/
theorem Reaches.pass {α : Type} {point : Point State} {part : Part α}
    {continue_ : α → Part ReplayResult} {events : List Event} {value : α}
    {state : State}
    (reaches : performance.Reaches point (part >>= continue_))
    (returned : performance.runPart part point.state =
      ⟨events, .returned value, state⟩) (panes : PaneMap) :
    performance.Reaches ⟨point.events ++ events, panes, state⟩
      (continue_ value) := by
  dsimp only [Reaches, runPart] at reaches returned ⊢
  rw [Session.run_bind_of_returned returned] at reaches
  rw [List.append_assoc]
  exact reaches

theorem replay_of_acquires {mode : WindowMode}
    (hasInitial : performance.emission.summary.initialPaneId ≠ "")
    (isMode : WindowMode.ofName? performance.request.mode = some mode) :
    performance.emission.replay performance.request =
      acquire performance.request performance.emission.summary.initialPaneId
        mode >>= afterAcquisition performance.emission performance.request := by
  rw [Emission.replay_eq, if_neg hasInitial, isMode]

theorem Acquires.run_eq {events : List Event} {initial : String}
    {state : State} (acquires : performance.Acquires events initial state) :
    performance.Reaches ⟨events, .empty, state⟩
      (afterAcquisition performance.emission performance.request initial) := by
  obtain ⟨mode, isMode, acquired⟩ := acquires.acquired
  rw [Reaches, run, replay_of_acquires acquires.hasInitial isMode]
  exact Session.run_bind_of_returned acquired _

theorem Stepping.reaches {steps : List Step} {point : Point State}
    (stepping : performance.Stepping steps point) :
    performance.Reaches point
      (executeSteps performance.request point.panes steps >>=
        conclude performance.emission performance.request) := by
  induction stepping with
  | acquired acquires =>
      have reached := acquires.run_eq
      dsimp only [Reaches, runPart] at reached ⊢
      rw [afterAcquisition_eq, Session.run_note] at reached
      rw [reached, List.append_assoc]
      rfl
  | step _ executed induction =>
      rw [executeSteps, Session.bind_assoc] at induction
      exact induction.pass executed _

theorem Configuring.stepping {built point : Point State} {focusPane : String}
    {terminals : List EmittedTerminal}
    (configuring : performance.Configuring built focusPane terminals point) :
    performance.Stepping [] built := by
  induction configuring with
  | focused stepping _ => exact stepping
  | terminal _ _ _ induction => exact induction

theorem Configuring.isFocused {built point : Point State} {focusPane : String}
    {terminals : List EmittedTerminal}
    (configuring : performance.Configuring built focusPane terminals point) :
    built.panes.get? performance.emission.summary.focusPaneId =
      some focusPane := by
  induction configuring with
  | focused _ isFocused => exact isFocused
  | terminal _ _ _ induction => exact induction

theorem Configuring.reaches {built point : Point State} {focusPane : String}
    {terminals : List EmittedTerminal}
    (configuring : performance.Configuring built focusPane terminals point) :
    performance.Reaches point
      (configureAll performance.request focusPane (performance.named built)
        point.panes terminals >>= finish performance.emission) := by
  induction configuring with
  | focused stepping isFocused =>
      have reached := stepping.reaches
      rw [executeSteps, Session.pure_eq, Session.ok_bind,
        conclude_of_focused isFocused] at reached
      exact reached
  | terminal _ found configured induction =>
      rw [configureAll_of_found found, Session.bind_assoc] at induction
      exact induction.pass configured _

/-- What happened until a point is the beginning of what happens in all. -/
theorem Reaches.isPrefix {point : Point State} {rest : Part ReplayResult}
    (reaches : performance.Reaches point rest) :
    point.events <+: performance.run.events := by
  rw [show performance.run = _ from reaches]
  exact List.prefix_append _ _

end Performance

end Replay

end PaneLayout
