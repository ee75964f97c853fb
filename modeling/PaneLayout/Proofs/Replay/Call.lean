import PaneLayout.Proofs.Session
import PaneLayout.Replay

/-!
# The calls of a replay

Every command of a replay is sent from one of a few call sites.  A call site
fixes what is said when the command fails, and the id of the thing that is being
processed then: the initial pane, a step, a terminal, or the focused pane.

`Orderly` holds of a part of a replay whose commands come from given call sites,
whose questions are of a given kind, and which every failing command ends.
-/

namespace PaneLayout

/-- A place where a replay sends a command. -/
structure CallSite where
  command : Command
  /-- What is said when only the text of the failure is known. -/
  message : String
  details : Entries Value
  /-- The id of what is being processed. -/
  path : String

/-- The error that ends the replay when the command fails. -/
def CallSite.failure (site : CallSite) (error : CallError) : ReplayError :=
  .command site.message site.details error site.path

/-- What is reported when the command fails. -/
def CallSite.report (site : CallSite) : CallError → Failure
  | .failure cause => {
      stage := "execution"
      code := cause.code
      message := cause.message
      path := some site.path
      details := if cause.details.isEmpty then site.details else cause.details }
  | .other reason => {
      stage := "execution"
      code := "TMUX_COMMAND_FAILED"
      message := site.message
      path := some site.path
      details := site.details.put "reason" (.text reason) }

theorem CallSite.problem_failure (site : CallSite) (error : CallError) :
    (site.failure error).problem = .failure (site.report error) := by
  cases error <;> rfl

namespace Replay

def listingCall (path : String) : CallSite where
  command := ["list-panes", "-F", paneIdFormat]
  message := "Failed to list tmux panes"
  details := []
  path

/-- The calls that acquire a window. -/
inductive AcquiringCall (request : ReplayRequest) (path : String) :
    CallSite → Prop where
  | currentPane : AcquiringCall request path
      ⟨["display-message", "-p", paneIdFormat],
        "Failed to resolve current tmux pane", [], path⟩
  | listing : AcquiringCall request path (listingCall path)
  | closing (current : String) : AcquiringCall request path
      ⟨["kill-pane", "-a", "-t", current], "Failed to close existing panes",
        commandDetails ["kill-pane", "-a", "-t", current], path⟩
  | newWindow : AcquiringCall request path
      ⟨["new-window", "-P", "-F", paneIdFormat] ++
          windowNameWords request.windowName,
        "Failed to create tmux window", [], path⟩

/-- The calls that carry out a step. -/
inductive StepCall : Step → CallSite → Prop where
  | listing (step : SplitStep) : StepCall (.split step) (listingCall step.id)
  | size (step : SplitStep) (orientation : Orientation) (target : String) :
      StepCall (.split step)
        ⟨["display-message", "-p", "-t", target, orientation.sizeFormat],
          "Failed to resolve tmux pane size", [], step.id⟩
  | split (step : SplitStep) (orientation : Orientation)
      (target option size : String) :
      StepCall (.split step)
        ⟨["split-window", orientation.flag, "-t", target, option, size],
          "Failed to execute split step " ++ step.id,
          commandDetails
            ["split-window", orientation.flag, "-t", target, option, size],
          step.id⟩
  | focus (step : FocusStep) (target : String) :
      StepCall (.focus step)
        ⟨["select-pane", "-t", target],
          "Failed to execute focus step " ++ step.id,
          commandDetails ["select-pane", "-t", target], step.id⟩

def typingCall (pane line path action : String) (details : Entries Value) :
    CallSite where
  command := ["send-keys", "-t", pane, line, "Enter"]
  message := "Failed to " ++ action
  details
  path

/-- The calls that configure a terminal in a pane. -/
inductive TerminalCall (terminal : EmittedTerminal) (pane : String) :
    CallSite → Prop where
  | title (title : String) : TerminalCall terminal pane
      ⟨["select-pane", "-t", pane, "-T", title],
        "Failed to set pane title for pane " ++ terminal.virtualPaneId,
        [("title", .text title)], terminal.virtualPaneId⟩
  | directory (directory : String) : TerminalCall terminal pane
      (typingCall pane ("cd \"" ++ escapeDoubleQuotes directory ++ "\"")
        terminal.virtualPaneId
        ("change directory for " ++ terminal.virtualPaneId) [])
  | assignment (key value : String) : TerminalCall terminal pane
      (typingCall pane
        ("export " ++ key ++ "=\"" ++ escapeDoubleQuotes value ++ "\"")
        terminal.virtualPaneId
        ("set " ++ key ++ " for " ++ terminal.virtualPaneId) [])
  | command (line command : String) : TerminalCall terminal pane
      (typingCall pane line terminal.virtualPaneId
        ("execute command for pane " ++ terminal.virtualPaneId)
        [("command", .text command)])

inductive FocusCall (focusId : String) : CallSite → Prop where
  | restore (pane : String) : FocusCall focusId
      ⟨["select-pane", "-t", pane], "Failed to restore focus", [], focusId⟩

/-- Commands come from the given call sites, questions are of the given kind,
and a command that fails ends the part with the error of its call site. -/
inductive Orderly {α : Type} (calls : CallSite → Prop)
    (asks : List String → Prop) : Part α → Prop where
  | done (result : Except ReplayError α) : Orderly calls asks (.done result)
  | send {site : CallSite} {next : Answer → Part α} :
      calls site →
      (∀ error, next (.error error) = .done (.error (site.failure error))) →
      (∀ output, Orderly calls asks (next (.ok output))) →
      Orderly calls asks (.send site.command next)
  | ask {panes : List String} {next : Value → Part α} :
      asks panes → (∀ answer, Orderly calls asks (next answer)) →
      Orderly calls asks (.ask panes next)
  | wait {seconds : Float} {next : Part α} :
      Orderly calls asks next → Orderly calls asks (.wait seconds next)
  | note {virtualId realId : String} {next : Part α} :
      Orderly calls asks next →
      Orderly calls asks (.note virtualId realId next)

def silent (_ : List String) : Prop := False

namespace Orderly

variable {α β State : Type} {calls moreCalls : CallSite → Prop}
  {asks moreAsks : List String → Prop}

theorem mono {part : Part α} (orderly : Orderly calls asks part)
    (callsHold : ∀ site, calls site → moreCalls site)
    (asksHold : ∀ panes, asks panes → moreAsks panes) :
    Orderly moreCalls moreAsks part := by
  induction orderly with
  | done result => exact .done result
  | send call failure _ induction =>
      exact .send (callsHold _ call) failure induction
  | ask question _ induction => exact .ask (asksHold _ question) induction
  | wait _ induction => exact .wait induction
  | note _ induction => exact .note induction

/-- A part stays orderly when it goes on in an orderly way with each value that
it can return. -/
theorem bind_of_ends {part : Part α} {continue_ : α → Part β}
    {results : Except ReplayError α → Prop}
    (orderly : Orderly calls asks part) (ends : part.Ends results)
    (rest : ∀ value, results (.ok value) →
      Orderly calls asks (continue_ value)) :
    Orderly calls asks (part >>= continue_) := by
  induction orderly with
  | done result =>
      cases ends with
      | done holds =>
          cases result with
          | ok value => exact rest value holds
          | error error => exact .done _
  | send call failure _ induction =>
      cases ends with
      | send ends =>
          refine .send call ?_ fun output => induction output (ends _)
          intro error
          simp only [failure error, Session.bind]
  | ask question _ induction =>
      cases ends with
      | ask ends => exact .ask question fun answer => induction answer (ends _)
  | wait _ induction =>
      cases ends with
      | wait ends => exact .wait (induction ends)
  | note _ induction =>
      cases ends with
      | note ends => exact .note (induction ends)

theorem bind {part : Part α} {continue_ : α → Part β}
    (orderly : Orderly calls asks part)
    (rest : ∀ value, Orderly calls asks (continue_ value)) :
    Orderly calls asks (part >>= continue_) :=
  orderly.bind_of_ends (Session.ends_trivial part) fun value _ => rest value

/-- What happens in a run of an orderly part is of the kinds it promises. -/
theorem mem_events {part : Part α} (orderly : Orderly calls asks part)
    (server : Server State) (consent : List String → Option Value)
    (state : State) :
    (∀ command answer,
      .sent command answer ∈ (part.run server consent state).events →
        ∃ site, calls site ∧ site.command = command) ∧
    (∀ panes, .asked panes ∈ (part.run server consent state).events →
      asks panes) := by
  induction orderly generalizing state with
  | done result => cases result <;> simp
  | @send site next call failure _ induction =>
      rw [Session.run_send]
      simp only [Run.after_events, List.mem_cons]
      cases answered : (server.step site.command state).1 with
      | error error =>
          simp only [failure error, Session.run_error, List.not_mem_nil,
            or_false, reduceCtorEq, false_implies, implies_true, and_true]
          intro command answer same
          cases same
          exact ⟨site, call, rfl⟩
      | ok output =>
          have later := induction output (server.step site.command state).2
          refine ⟨?_, ?_⟩
          · rintro command answer (first | member)
            · cases first
              exact ⟨site, call, rfl⟩
            · exact later.1 command answer member
          · rintro panes (first | member)
            · cases first
            · exact later.2 panes member
  | @ask panes next question _ induction =>
      cases answered : consent panes with
      | none =>
          simp only [Session.run_ask_unanswered _ _ answered,
            List.mem_singleton, Event.asked.injEq, reduceCtorEq,
            false_implies, implies_true, true_and]
          rintro _ rfl
          exact question
      | some answer =>
          have later := induction answer state
          simp only [Session.run_ask_answered _ _ answered,
            Run.after_events, List.mem_cons, reduceCtorEq, false_or]
          refine ⟨later.1, ?_⟩
          rintro askedPanes (first | member)
          · cases first
            exact question
          · exact later.2 askedPanes member
  | wait _ induction => simpa [Session.run_wait] using induction state
  | note _ induction => simpa [Session.run_note] using induction state

end Orderly

/-! ### Runs of a single command -/

section Run

variable {State : Type} {server : Server State} {state next : State}
  {command : Command} {output : String} {error : CallError}

theorem run_perform_ok (consent : List String → Option Value)
    (answered : server.step command state = (.ok output, next))
    (message path : String) (details : Entries Value) :
    (perform command message path details).run server consent state =
      ⟨[.sent command (.ok output)], .returned output, next⟩ := by
  rw [perform, Session.run_send, answered]
  rfl

theorem run_perform_error (consent : List String → Option Value)
    (answered : server.step command state = (.error error, next))
    (message path : String) (details : Entries Value) :
    (perform command message path details).run server consent state =
      ⟨[.sent command (.error error)],
        .failed (.command message details error path), next⟩ := by
  rw [perform, Session.run_send, answered]
  rfl

/-- A command after which a replay goes on was obeyed. -/
theorem sent_of_run_perform {consent : List String → Option Value}
    {message path : String} {details : Entries Value} {events : List Event}
    (returned : (perform command message path details).run server consent
      state = ⟨events, .returned output, next⟩) :
    events = [.sent command (.ok output)] := by
  rw [perform, Session.run_send] at returned
  cases answered : (server.step command state).1 with
  | error error =>
      rw [answered] at returned
      cases returned
  | ok known =>
      rw [answered] at returned
      cases returned
      rfl

theorem run_listPanes_ok (consent : List String → Option Value)
    (path : String)
    (answered : server.step ["list-panes", "-F", paneIdFormat] state =
      (.ok output, next)) :
    (listPanes path).run server consent state =
      ⟨[.sent ["list-panes", "-F", paneIdFormat] (.ok output)],
        .returned (listedPanes output), next⟩ := by
  rw [listPanes, Session.run_bind_of_returned
    (run_perform_ok consent answered _ path [])]
  rfl

theorem run_listPanes_error (consent : List String → Option Value)
    (path : String)
    (answered : server.step ["list-panes", "-F", paneIdFormat] state =
      (.error error, next)) :
    (listPanes path).run server consent state =
      ⟨[.sent ["list-panes", "-F", paneIdFormat] (.error error)],
        .failed ((listingCall path).failure error), next⟩ := by
  rw [listPanes, Session.run_bind_of_failed
    (run_perform_error consent answered _ path [])]
  rfl

end Run

/-! ### The parts of a replay -/

section Parts

variable {calls : CallSite → Prop} {asks : List String → Prop}

theorem orderly_perform (site : CallSite) (call : calls site) :
    Orderly calls asks
      (perform site.command site.message site.path site.details) :=
  .send call (fun _ => rfl) fun _ => .done _

theorem orderly_listPanes (path : String) (call : calls (listingCall path)) :
    Orderly calls asks (listPanes path) :=
  (orderly_perform (listingCall path) call).bind fun _ => .done _

theorem orderly_currentPane (request : ReplayRequest) (path : String) :
    Orderly (AcquiringCall request path) asks (currentPane request path) := by
  unfold currentPane
  dsimp only
  split
  · exact .done _
  · split
    · exact .done _
    · refine (orderly_perform ⟨_, _, _, _⟩ .currentPane).bind fun output => ?_
      split <;> exact .done _

theorem orderly_acquireNewWindow (request : ReplayRequest) (path : String) :
    Orderly (AcquiringCall request path) asks
      (acquireNewWindow request path) :=
  (orderly_perform ⟨_, _, _, _⟩ .newWindow).bind fun _ => .done _

/-- Somebody may be asked, if there is somebody to ask. -/
def mayAsk (request : ReplayRequest) (_ : List String) : Prop :=
  request.asks = true

theorem orderly_confirmClosing (request : ReplayRequest)
    (panes : List String) (path : String) :
    Orderly calls (mayAsk request) (confirmClosing request panes path) := by
  unfold confirmClosing
  split
  · refine .ask ‹_› fun answer => ?_
    split <;> exact .done _
  · exact .done _

theorem orderly_acquireCurrentWindow (request : ReplayRequest)
    (path : String) :
    Orderly (AcquiringCall request path) (mayAsk request)
      (acquireCurrentWindow request path) := by
  refine (orderly_currentPane request path).bind fun current => ?_
  refine (orderly_listPanes path .listing).bind fun listed => ?_
  dsimp only
  split
  · refine (orderly_confirmClosing request _ path).bind fun _ => ?_
    exact (orderly_perform ⟨_, _, _, _⟩ (.closing current)).bind
      fun _ => .done _
  · exact .done _

theorem orderly_acquire (request : ReplayRequest) (path : String)
    (mode : WindowMode) :
    Orderly (AcquiringCall request path) (mayAsk request)
      (acquire request path mode) := by
  cases mode with
  | newWindow => exact orderly_acquireNewWindow request path
  | currentWindow => exact orderly_acquireCurrentWindow request path

theorem orderly_ofExcept {α : Type} (result : Except ReplayError α) :
    Orderly calls asks (Session.ofExcept result) := .done _

theorem orderly_targetPane (role : TargetRole) (stepId : String)
    (target : Option String) (panes : PaneMap) :
    Orderly calls asks (targetPane role stepId target panes) := by
  unfold targetPane
  split
  · exact .done _
  · exact .done _
  · split <;> exact .done _

theorem orderly_dynamicSize (request : ReplayRequest) (step : SplitStep)
    (orientation : Orientation) (sizing : DynamicSizing) (target : String) :
    Orderly (StepCall (.split step)) asks
      (dynamicSize request step.id orientation sizing target) := by
  refine (orderly_perform ⟨_, _, _, _⟩
    (.size step orientation target)).bind fun output => ?_
  refine (orderly_ofExcept _).bind fun cells => ?_
  split
  · exact .done _
  · exact .done _
  · split <;> exact .done _

theorem orderly_splitCommand (request : ReplayRequest) (step : SplitStep)
    (target : String) :
    Orderly (StepCall (.split step)) asks
      (splitCommand request step target) := by
  unfold splitCommand
  split
  · exact .done _
  · dsimp only
    split
    · exact (orderly_dynamicSize request step _ _ target).bind fun _ => .done _
    · exact (orderly_ofExcept _).bind fun _ => .done _
    · exact (orderly_ofExcept _).bind fun _ => .done _
    · exact .done _

/-- The command of a split step divides the target. -/
def dividesPane (target : String) : Except ReplayError Command → Prop
  | .ok command => ∃ orientation : Orientation, ∃ option size,
      command = ["split-window", orientation.flag, "-t", target, option, size]
  | .error _ => True

theorem ends_splitCommand (request : ReplayRequest) (step : SplitStep)
    (target : String) :
    (splitCommand request step target).Ends (dividesPane target) := by
  have sized : ∀ (orientation : Orientation) (option : String)
      {α : Type} (size : Part α) (text : α → String),
      (size >>= fun value => (pure
        ["split-window", orientation.flag, "-t", target, option, text value] :
        Part Command)).Ends (dividesPane target) := by
    intro orientation option α size text
    exact (Session.ends_trivial size).bind
      (fun value _ => .done ⟨orientation, option, text value, rfl⟩)
      fun _ _ => trivial
  unfold splitCommand
  split
  · exact .done trivial
  · dsimp only
    split
    · exact sized _ "-l" _ id
    · exact sized _ "-p" _ toString
    · exact sized _ "-p" _ toString
    · exact .done trivial

theorem orderly_splitPane (request : ReplayRequest) (step : SplitStep)
    (panes : PaneMap) :
    Orderly (StepCall (.split step)) asks (splitPane request step panes) := by
  refine (orderly_targetPane _ _ _ panes).bind fun ⟨target, panes⟩ => ?_
  refine (orderly_listPanes _ (.listing step)).bind fun before => ?_
  refine (orderly_splitCommand request step target).bind_of_ends
    (ends_splitCommand request step target) ?_
  rintro _ ⟨orientation, option, size, rfl⟩
  refine (orderly_perform ⟨_, _, _, _⟩
    (.split step orientation target option size)).bind fun _ => ?_
  refine (orderly_listPanes _ (.listing step)).bind fun listed => ?_
  split
  · exact .done _
  · split
    · exact .done _
    · exact .done _
    · exact .note (.done _)

theorem orderly_focusPane (step : FocusStep) (panes : PaneMap) :
    Orderly (StepCall (.focus step)) asks (focusPane step panes) := by
  refine (orderly_targetPane _ _ _ panes).bind fun ⟨target, panes⟩ => ?_
  exact (orderly_perform ⟨_, _, _, _⟩ (.focus step target)).bind
    fun _ => .done _

theorem orderly_executeStep (request : ReplayRequest) (panes : PaneMap)
    (step : Step) :
    Orderly (StepCall step) asks (executeStep request panes step) := by
  cases step with
  | split step => exact orderly_splitPane request step panes
  | focus step => exact orderly_focusPane step panes
  | unsupported kind id => exact .done _

theorem orderly_typeLine (pane line path action : String)
    (details : Entries Value)
    (call : calls (typingCall pane line path action details)) :
    Orderly calls asks (typeLine pane line path action details) :=
  (orderly_perform (typingCall pane line path action details) call).bind
    fun _ => .done _

theorem orderly_exportAll (terminal : EmittedTerminal) (pane : String)
    (assignments : Entries String) :
    Orderly (TerminalCall terminal pane) asks
      (exportAll pane terminal.virtualPaneId assignments) := by
  induction assignments with
  | nil => exact .done _
  | cons first rest induction =>
      exact (orderly_typeLine _ _ _ _ _
        (.assignment first.1 first.2)).bind fun _ => induction

theorem orderly_waitFor (request : ReplayRequest) (delay : Option Int) :
    Orderly calls asks (waitFor request delay) := by
  unfold waitFor
  split
  · exact .done _
  · split
    · exact .done _
    · split
      · exact .done _
      · exact .wait (.done _)

theorem orderly_setTitle (terminal : EmittedTerminal) (pane : String)
    (title : Option String) :
    Orderly (TerminalCall terminal pane) asks
      (setTitle pane terminal.virtualPaneId title) := by
  unfold setTitle
  split
  · exact .done _
  · exact .done _
  · exact (orderly_perform ⟨_, _, _, _⟩ (.title _)).bind fun _ => .done _

theorem orderly_enterDirectory (terminal : EmittedTerminal) (pane : String)
    (directory : Option String) :
    Orderly (TerminalCall terminal pane) asks
      (enterDirectory pane terminal.virtualPaneId directory) := by
  unfold enterDirectory
  split
  · exact .done _
  · exact .done _
  · exact orderly_typeLine _ _ _ _ _ (.directory _)

theorem orderly_runCommand (request : ReplayRequest)
    (terminal : EmittedTerminal) (panes : TokenPanes) :
    Orderly (TerminalCall terminal panes.thisPane) asks
      (runCommand request terminal panes) := by
  unfold runCommand
  split
  · exact .done _
  · exact .done _
  · refine (orderly_ofExcept _).bind fun line => ?_
    refine (orderly_waitFor request _).bind fun _ => ?_
    exact orderly_typeLine _ _ _ _ _ (.command line _)

theorem orderly_configure (request : ReplayRequest)
    (terminal : EmittedTerminal) (panes : TokenPanes) :
    Orderly (TerminalCall terminal panes.thisPane) asks
      (configure request terminal panes) := by
  refine (orderly_setTitle terminal _ _).bind fun _ => ?_
  refine (orderly_enterDirectory terminal _ _).bind fun _ => ?_
  refine (orderly_exportAll terminal _ _).bind fun _ => ?_
  exact orderly_runCommand request terminal panes

theorem orderly_restoreFocus (focusId : String) (panes : PaneMap) :
    Orderly (FocusCall focusId) asks (restoreFocus focusId panes) := by
  unfold restoreFocus
  split
  · exact .done _
  · exact (orderly_perform ⟨_, _, _, _⟩ (.restore _)).bind fun _ => .done _

end Parts

end Replay

end PaneLayout
