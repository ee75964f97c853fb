import PaneLayout.Proofs.Plan.Tracking
import PaneLayout.Proofs.Replay.Consent
import PaneLayout.Proofs.Replay.Window

/-!
# Configuring terminals

As long as no command fails, configuring the terminals of a layout can only fail
because of what a terminal says itself: a token that names no terminal, or a
delay without a double.  Every terminal and the focus are found in the pane map.
-/

namespace PaneLayout

namespace Session

variable {ε α β State : Type}

/-- As long as no command fails, the session can only end in results of one
kind. -/
inductive EndsIfObeyed (results : Except ε α → Prop) : Session ε α → Prop where
  | done {result : Except ε α} :
      results result → EndsIfObeyed results (.done result)
  | send {command : Command} {next : Answer → Session ε α} :
      (∀ output, EndsIfObeyed results (next (.ok output))) →
      EndsIfObeyed results (.send command next)
  | ask {panes : List String} {next : Value → Session ε α} :
      (∀ answer, EndsIfObeyed results (next answer)) →
      EndsIfObeyed results (.ask panes next)
  | wait {seconds : Float} {next : Session ε α} :
      EndsIfObeyed results next → EndsIfObeyed results (.wait seconds next)
  | note {virtualId realId : String} {next : Session ε α} :
      EndsIfObeyed results next →
      EndsIfObeyed results (.note virtualId realId next)

theorem EndsIfObeyed.bind {results : Except ε α → Prop}
    {laterResults : Except ε β → Prop} {session : Session ε α}
    {continue_ : α → Session ε β} (ends : EndsIfObeyed results session)
    (returned : ∀ value, EndsIfObeyed laterResults (continue_ value))
    (failed : ∀ error, results (.error error) →
      laterResults (.error error)) :
    EndsIfObeyed laterResults (session >>= continue_) := by
  induction ends with
  | @done result holds =>
      cases result with
      | ok value => exact returned value
      | error error => exact .done (failed error holds)
  | send _ induction => exact .send induction
  | ask _ induction => exact .ask induction
  | wait _ induction => exact .wait induction
  | note _ induction => exact .note induction

theorem EndsIfObeyed.of_failed {results : Except ε α → Prop}
    {session : Session ε α} (ends : EndsIfObeyed results session)
    {server : Server State} {window : State → List String}
    {valid : State → Prop} (isWindow : server.IsWindow window valid)
    {consent : List String → Option Value} {state : State}
    (isValid : valid state) {error : ε}
    (failed : (session.run server consent state).ending = .failed error) :
    results (.error error) := by
  induction ends generalizing state with
  | @done result holds =>
      cases result with
      | ok value => cases failed
      | error error =>
          cases failed
          exact holds
  | @send command next _ induction =>
      obtain ⟨output, answered⟩ := isWindow.obeys command state isValid
      rw [run_send, answered] at failed
      exact induction output (isWindow.stays command state isValid) failed
  | @ask panes next _ induction =>
      cases answered : consent panes with
      | none =>
          rw [run_ask_unanswered _ _ answered] at failed
          cases failed
      | some answer =>
          rw [run_ask_answered _ _ answered] at failed
          exact induction answer isValid failed
  | wait _ induction => exact induction isValid failed
  | note _ induction => exact induction isValid failed

end Session

namespace Replay

/-- The part succeeded, or a terminal could not be configured as it says. -/
def FromTerminal {α : Type} : Except ReplayError α → Prop
  | .ok _ => True
  | .error (.unknownToken _ _ _) => True
  | .error (.fault _) => True
  | .error _ => False

/-- As long as no command fails, only what a terminal says can go wrong. -/
abbrev Configures {α : Type} (part : Part α) : Prop :=
  part.EndsIfObeyed FromTerminal

theorem Configures.bind {α β : Type} {part : Part α}
    {continue_ : α → Part β} (first : Configures part)
    (rest : ∀ value, Configures (continue_ value)) :
    Configures (part >>= continue_) :=
  Session.EndsIfObeyed.bind first rest fun error fromTerminal => by
    cases error <;> exact fromTerminal

theorem configures_perform (command : Command) (message path : String)
    (details : Entries Value) :
    Configures (perform command message path details) :=
  .send fun _ => .done trivial

theorem configures_typeLine (pane line path action : String)
    (details : Entries Value) :
    Configures (typeLine pane line path action details) :=
  (configures_perform _ _ _ _).bind fun _ => .done trivial

theorem configures_exportAll (pane path : String)
    (assignments : Entries String) :
    Configures (exportAll pane path assignments) := by
  induction assignments with
  | nil => exact .done trivial
  | cons first rest induction =>
      exact (configures_typeLine _ _ _ _ _).bind fun _ => induction

theorem configures_waitFor (request : ReplayRequest) (delay : Option Int) :
    Configures (waitFor request delay) := by
  unfold waitFor
  split
  · exact .done trivial
  · split
    · exact .done trivial
    · split
      · exact .done trivial
      · exact .wait (.done trivial)

theorem fromTerminal_commandLine (terminal : EmittedTerminal)
    (panes : TokenPanes) : FromTerminal (commandLine terminal panes) := by
  unfold commandLine
  dsimp only
  cases Template.replace panes (terminal.command.getD "") with
  | error error => exact trivial
  | ok replaced =>
      dsimp only [pure_bind]
      cases terminal.ephemeral <;> cases terminal.closeOnError <;>
        exact trivial

theorem configures_runCommand (request : ReplayRequest)
    (terminal : EmittedTerminal) (panes : TokenPanes) :
    Configures (runCommand request terminal panes) := by
  unfold runCommand
  split
  · exact .done trivial
  · exact .done trivial
  · have line : Configures (Session.ofExcept (commandLine terminal panes)) :=
      .done (fromTerminal_commandLine terminal panes)
    refine line.bind fun _ => ?_
    refine (configures_waitFor request _).bind fun _ => ?_
    exact configures_typeLine _ _ _ _ _

theorem configures_configure (request : ReplayRequest)
    (terminal : EmittedTerminal) (panes : TokenPanes) :
    Configures (configure request terminal panes) := by
  have title : Configures (setTitle panes.thisPane terminal.virtualPaneId
      terminal.title) := by
    unfold setTitle
    split
    · exact .done trivial
    · exact .done trivial
    · exact (configures_perform _ _ _ _).bind fun _ => .done trivial
  have directory : Configures (enterDirectory panes.thisPane
      terminal.virtualPaneId terminal.cwd) := by
    unfold enterDirectory
    split
    · exact .done trivial
    · exact .done trivial
    · exact configures_typeLine _ _ _ _ _
  refine title.bind fun _ => directory.bind fun _ => ?_
  refine (configures_exportAll _ _ _).bind fun _ => ?_
  exact configures_runCommand request terminal panes

theorem configures_restoreFocus (focusId : String) (panes : PaneMap) :
    Configures (restoreFocus focusId panes) := by
  unfold restoreFocus
  split
  · exact .done trivial
  · exact (configures_perform _ _ _ _).bind fun _ => .done trivial

/-! ### Finding every terminal -/

/-- The id is that of a position whose pane was made. -/
def Shows (leftmost : Position) (placed : Placement) (id : String) : Prop :=
  ∃ position : Position, id = position.paneId ∧ leftmost.Reaches position ∧
    ∃ pane, placed position.anchor = some pane

section Terminals

variable {leftmost : Position} {placed : Placement} {panes : PaneMap}
  {terminals : List EmittedTerminal}

theorem resolve_shown (tracks : panes.Tracks leftmost placed) {id : String}
    (shows_ : Shows leftmost placed id) :
    ∃ pane built, panes.resolve id = (some pane, built) ∧
      built.Tracks leftmost placed := by
  obtain ⟨position, rfl, reaches, pane, isPlaced⟩ := shows_
  exact ⟨pane, _, tracks.resolve_eq isPlaced reaches,
    tracks.register_found isPlaced⟩

theorem tracks_resolvePanes (tracks : panes.Tracks leftmost placed)
    (shown : ∀ terminal ∈ terminals,
      Shows leftmost placed terminal.virtualPaneId) :
    (resolvePanes panes terminals).2.Tracks leftmost placed := by
  induction terminals generalizing panes with
  | nil => exact tracks
  | cons terminal terminals induction =>
      obtain ⟨here, later⟩ := List.forall_mem_cons.mp shown
      obtain ⟨pane, built, resolved, builtTracks⟩ := resolve_shown tracks here
      rw [resolvePanes, resolved]
      exact induction builtTracks later

theorem configures_all (request : ReplayRequest) (focusPane : String)
    (named : Entries String) (tracks : panes.Tracks leftmost placed)
    (shown : ∀ terminal ∈ terminals,
      Shows leftmost placed terminal.virtualPaneId) :
    Configures (configureAll request focusPane named panes terminals) := by
  induction terminals generalizing panes with
  | nil => exact .done trivial
  | cons terminal terminals induction =>
      obtain ⟨here, later⟩ := List.forall_mem_cons.mp shown
      obtain ⟨pane, built, resolved, builtTracks⟩ := resolve_shown tracks here
      rw [configureAll, resolved]
      exact (configures_configure request terminal _).bind fun _ =>
        induction builtTracks later

/-- Once the focus is recorded, every terminal is found. -/
theorem configures_terminals (request : ReplayRequest) {focusId : String}
    {focusPane : String} (focused : panes.get? focusId = some focusPane)
    (tracks : panes.Tracks leftmost placed)
    (shown : ∀ terminal ∈ terminals,
      Shows leftmost placed terminal.virtualPaneId) :
    Configures (configureTerminals request terminals focusId panes) := by
  rw [configureTerminals, focused]
  exact configures_all request focusPane _
    (tracks_resolvePanes tracks shown) shown

end Terminals

end Replay

end PaneLayout
