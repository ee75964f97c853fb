import PaneLayout.Proofs.Replay.Reported
import PaneLayout.Proofs.Session.Parallel

/-!
# Dry runs and what they rehearse

A dry run of a replay does what the replay itself does, apart from the waits.
There are two exceptions.  A size that cannot be resolved stops a replay, and a
dry run goes on.  A delay that is too long to be told in seconds, or too long for
the clock, stops a replay as well, and a dry run never looks at its length.
-/

namespace PaneLayout

/-- A scripted window that only pretends answers as one that does not. -/
theorem ScriptedWindow.answersLike_dry (script : WindowScript)
    (window : ScriptedWindow) :
    (server { script with isDryRun := false }).AnswersLike
      (server { script with isDryRun := true }) window window :=
  Server.answersLike_of_step_eq (by rfl) window

theorem Ending.eq_returned {ε α : Type} {ending : Ending ε α} {value : α}
    (found : ending.result?.bind Except.toOption = some value) :
    ending = .returned value := by
  cases ending with
  | returned other =>
      cases found
      rfl
  | failed error => cases found
  | unanswered => cases found

namespace ReplayRequest

/-- The request, carried out for a server that pretends or for one that does
not. -/
def onServer {State : Type} (request : ReplayRequest) (server : Server State) :
    ReplayRequest :=
  { request with isDryRun := server.isDryRun }

def live (request : ReplayRequest) : ReplayRequest :=
  { request with isDryRun := false }

def dry (request : ReplayRequest) : ReplayRequest :=
  { request with isDryRun := true }

/-- The program can tell which pane it runs in, if that matters. -/
def KnowsPane (request : ReplayRequest) : Prop :=
  request.mode = WindowMode.newWindow.name ∨
    trimmed (request.currentPane.getD "") ≠ ""

end ReplayRequest

namespace Replay

/-- The last thing that happened is an output that leaves a dynamic split of the
steps without a size. -/
def LacksSize (steps : List Step) (events : List Event) (error : ReplayError) :
    Prop :=
  ∃ before orientation target output step sizing cells reason,
    events = before ++ [.sent (sizeQuery orientation target) (.ok output)] ∧
    .split step ∈ steps ∧ step.orientation = some orientation ∧
    step.sizing = some (.dynamic sizing) ∧ paneCells output = .ok cells ∧
    sizing.resolve cells = .error reason ∧
    error = .unresolvedSize sizing cells reason step.id

/-- A delay of the terminals is too long: the clock cannot time it, or it cannot
even be told in seconds. -/
def DelayTooLong (request : ReplayRequest) (terminals : List EmittedTerminal)
    (error : ReplayError) : Prop :=
  ∃ terminal ∈ terminals, ∃ milliseconds cause,
    terminal.delay = some milliseconds ∧
    (2 ^ 1032 ≤ milliseconds ∨
      ∃ longest, request.longestWait = some longest ∧ longest < milliseconds) ∧
    waitSeconds request.longestWait milliseconds = .error cause ∧
    error = .fault cause

/-- What keeps a replay from doing what its dry run did. -/
def Stops (emission : Emission) (request : ReplayRequest)
    (events : List Event) (error : ReplayError) : Prop :=
  LacksSize emission.steps events error ∨
    DelayTooLong request emission.terminals error

/-- Whatever happened before, the first part does what the second one does,
unless it is stopped. -/
def Rehearsed {α : Type} (emission : Emission) (request : ReplayRequest)
    (part rehearsal : Part α) : Prop :=
  ∀ past, Session.Alongside (Stops emission request) past part rehearsal

section Rehearsed

variable {α β : Type} {emission : Emission} {request : ReplayRequest}
  {part rehearsal : Part α}

theorem rehearsed_refl (part : Part α) : Rehearsed emission request part part :=
  .refl part

theorem Rehearsed.bind {continue_ otherContinue : α → Part β}
    (first : Rehearsed emission request part rehearsal)
    (rest : ∀ value,
      Rehearsed emission request (continue_ value) (otherContinue value)) :
    Rehearsed emission request (part >>= continue_) (rehearsal >>= otherContinue) :=
  fun past => (first past).bind fun later value => rest value later

/-! ### Sizes -/

/-- A size is the same in a dry run, unless it cannot be resolved. -/
theorem sizeText_live (request : ReplayRequest) (stepId : String)
    (sizing : DynamicSizing) (output : String) :
    sizeText request.live stepId sizing output =
        sizeText request.dry stepId sizing output ∨
      ∃ cells reason, paneCells output = .ok cells ∧
        sizing.resolve cells = .error reason ∧
        sizeText request.live stepId sizing output =
          .error (.unresolvedSize sizing cells reason stepId) := by
  unfold sizeText
  cases read : paneCells output with
  | error cause =>
      left
      rfl
  | ok cells =>
      dsimp only
      unfold resolvedSize
      cases resolved : sizing.resolve cells with
      | ok split =>
          left
          rfl
      | error reason =>
          cases reason with
          | fault cause =>
              left
              rfl
          | unknownSize =>
              right
              exact ⟨cells, _, rfl, resolved, rfl⟩
          | tooSmall =>
              right
              exact ⟨cells, _, rfl, resolved, rfl⟩

theorem rehearsed_dynamicSize {step : SplitStep} {orientation : Orientation}
    {sizing : DynamicSizing} (member : .split step ∈ emission.steps)
    (oriented : step.orientation = some orientation)
    (isDynamic : step.sizing = some (.dynamic sizing)) (request : ReplayRequest)
    (target : String) :
    Rehearsed emission request
      (dynamicSize request.live step.id orientation sizing target)
      (dynamicSize request.dry step.id orientation sizing target) := by
  intro past
  rw [dynamicSize_eq, dynamicSize_eq, perform, Session.send_bind,
    Session.send_bind]
  refine .send fun answer => ?_
  cases answer with
  | error error => exact .done
  | ok output =>
      simp only [Session.ok_bind, Session.ofExcept]
      rcases sizeText_live request step.id sizing output with
        same | ⟨cells, reason, read, unresolved, failed⟩
      · rw [same]
        exact .done
      · rw [failed]
        refine .stops (.inl ?_)
        exact ⟨past, orientation, target, output, step, sizing, cells, reason,
          rfl, member, oriented, isDynamic, read, unresolved, rfl⟩

theorem rehearsed_splitCommand {step : SplitStep}
    (member : .split step ∈ emission.steps) (request : ReplayRequest)
    (target : String) :
    Rehearsed emission request (splitCommand request.live step target)
      (splitCommand request.dry step target) := by
  unfold splitCommand
  cases oriented : step.orientation with
  | none => exact rehearsed_refl _
  | some orientation =>
      cases sized : step.sizing with
      | none =>
          cases step.percentage with
          | none => exact rehearsed_refl _
          | some percentage => exact rehearsed_refl _
      | some sizing =>
          cases sizing with
          | percent percentage => exact rehearsed_refl _
          | dynamic sizing =>
              exact (rehearsed_dynamicSize member oriented sized request
                target).bind fun size => rehearsed_refl _

/-! ### Steps -/

theorem rehearsed_executeStep {step : Step} (member : step ∈ emission.steps)
    (request : ReplayRequest) (panes : PaneMap) :
    Rehearsed emission request (executeStep request.live panes step)
      (executeStep request.dry panes step) := by
  cases step with
  | focus step => exact rehearsed_refl _
  | unsupported kind id => exact rehearsed_refl _
  | split step =>
      refine (rehearsed_refl _).bind fun found => ?_
      refine (rehearsed_refl _).bind fun before => ?_
      refine (rehearsed_splitCommand member request found.1).bind
        fun command => ?_
      exact rehearsed_refl _

theorem rehearsed_executeSteps {steps : List Step}
    (part : steps ⊆ emission.steps) (request : ReplayRequest)
    (panes : PaneMap) :
    Rehearsed emission request (executeSteps request.live panes steps)
      (executeSteps request.dry panes steps) := by
  induction steps generalizing panes with
  | nil => exact rehearsed_refl _
  | cons step steps induction =>
      obtain ⟨first, rest⟩ := List.cons_subset.mp part
      refine (rehearsed_executeStep first request panes).bind fun panes => ?_
      exact induction rest panes

/-! ### Terminals -/

/-- A replay waits where its dry run goes on, unless the delay is too long. -/
theorem rehearsed_waitFor {terminal : EmittedTerminal}
    (member : terminal ∈ emission.terminals) (request : ReplayRequest) :
    Rehearsed emission request (waitFor request.live terminal.delay)
      (waitFor request.dry terminal.delay) := by
  unfold waitFor
  cases delayed : terminal.delay with
  | none => exact rehearsed_refl _
  | some milliseconds =>
      dsimp only
      by_cases notDue : milliseconds ≤ 0
      · rw [if_pos (Or.inl notDue), if_pos (Or.inl notDue)]
        exact rehearsed_refl _
      · have waits : ¬ (milliseconds ≤ 0 ∨ request.live.isDryRun = true) := by
          simpa [ReplayRequest.live] using notDue
        have goesOn : milliseconds ≤ 0 ∨ request.dry.isDryRun = true := .inr rfl
        rw [if_neg waits, if_pos goesOn]
        intro past
        have sameClock : request.live.longestWait = request.longestWait := rfl
        rw [sameClock]
        cases seconds : waitSeconds request.longestWait milliseconds with
        | ok seconds => exact .wait .done
        | error cause =>
            refine .stops (.inr ⟨terminal, member, milliseconds, cause, delayed,
              ?_, seconds, rfl⟩)
            refine or_iff_not_imp_left.mpr fun short => ?_
            obtain ⟨known, told⟩ := @quotient_thousand milliseconds 1023
              (not_le.mp notDue) (by decide) (not_le.mp short)
            rcases waitSeconds_of_quotient told with ok | ⟨_, beyond⟩
            · cases seconds.symm.trans ok
            · exact beyond

theorem rehearsed_configure {terminal : EmittedTerminal}
    (member : terminal ∈ emission.terminals) (request : ReplayRequest)
    (panes : TokenPanes) :
    Rehearsed emission request (configure request.live terminal panes)
      (configure request.dry terminal panes) := by
  refine (rehearsed_refl _).bind fun titled => ?_
  refine (rehearsed_refl _).bind fun entered => ?_
  refine (rehearsed_refl _).bind fun exported => ?_
  unfold runCommand
  split
  · exact rehearsed_refl _
  · exact rehearsed_refl _
  · refine (rehearsed_refl _).bind fun line => ?_
    refine (rehearsed_waitFor member request).bind fun waited => ?_
    exact rehearsed_refl _

theorem rehearsed_configureAll {terminals : List EmittedTerminal}
    (part : terminals ⊆ emission.terminals) (request : ReplayRequest)
    (focusPane : String) (named : Entries String) (panes : PaneMap) :
    Rehearsed emission request
      (configureAll request.live focusPane named panes terminals)
      (configureAll request.dry focusPane named panes terminals) := by
  induction terminals generalizing panes with
  | nil => exact rehearsed_refl _
  | cons terminal terminals induction =>
      obtain ⟨first, rest⟩ := List.cons_subset.mp part
      cases found : panes.lookup terminal.virtualPaneId with
      | none =>
          rw [configureAll_of_unknown found, configureAll_of_unknown found]
          exact rehearsed_refl _
      | some realId =>
          rw [configureAll_of_found found, configureAll_of_found found]
          refine (rehearsed_configure first request _).bind fun configured => ?_
          exact induction rest _

theorem rehearsed_conclude (request : ReplayRequest) (panes : PaneMap) :
    Rehearsed emission request (conclude emission request.live panes)
      (conclude emission request.dry panes) := by
  cases isFocused : panes.get? emission.summary.focusPaneId with
  | none =>
      rw [conclude, conclude, configureTerminals, configureTerminals, isFocused]
      exact rehearsed_refl _
  | some focusPane =>
      rw [conclude_of_focused isFocused, conclude_of_focused isFocused]
      refine (rehearsed_configureAll (List.Subset.refl _) request _ _ _).bind
        fun panes => ?_
      exact rehearsed_refl _

end Rehearsed

/-! ### Whole replays -/

/-- Where the pane is known, the window is acquired in the same way. -/
theorem acquire_live {request : ReplayRequest} (known : request.KnowsPane)
    {mode : WindowMode} (named : WindowMode.ofName? request.mode = some mode)
    (initialId : String) :
    acquire request.live initialId mode =
      acquire request.dry initialId mode := by
  cases mode with
  | newWindow => rfl
  | currentWindow =>
      have stated : trimmed (request.currentPane.getD "") ≠ "" := by
        rcases known with isNew | stated
        · rw [isNew] at named
          cases named
        · exact stated
      have same : currentPane request.live initialId =
          currentPane request.dry initialId := by
        unfold currentPane
        dsimp only [ReplayRequest.live, ReplayRequest.dry]
        rw [if_pos stated, if_pos stated]
      unfold acquire acquireCurrentWindow
      rw [same]
      rfl

theorem rehearsed_replay {emission : Emission} {request : ReplayRequest}
    (known : request.KnowsPane) :
    Rehearsed emission request (emission.replay request.live)
      (emission.replay request.dry) := by
  rw [Emission.replay_eq, Emission.replay_eq]
  split
  · exact rehearsed_refl _
  · cases named : WindowMode.ofName? request.mode with
    | none =>
        have liveNamed : WindowMode.ofName? request.live.mode = none := named
        have dryNamed : WindowMode.ofName? request.dry.mode = none := named
        rw [liveNamed, dryNamed]
        exact rehearsed_refl _
    | some mode =>
        have liveNamed : WindowMode.ofName? request.live.mode = some mode :=
          named
        have dryNamed : WindowMode.ofName? request.dry.mode = some mode :=
          named
        rw [liveNamed, dryNamed]
        dsimp only
        rw [acquire_live known named]
        refine (rehearsed_refl _).bind fun initial => ?_
        rw [afterAcquisition_eq, afterAcquisition_eq]
        refine fun past => .note (Rehearsed.bind ?_ ?_ _)
        · exact rehearsed_executeSteps (List.Subset.refl _) request _
        · exact rehearsed_conclude request

end Replay

namespace Emission

open Replay

/-- Replays an emission on a server.  Whoever is asked is told whether the
server only pretends. -/
def runOn {State : Type} (emission : Emission) (request : ReplayRequest)
    (callback : List String → Bool → Option Value) (server : Server State)
    (state : State) : Run ReplayError ReplayResult State :=
  (emission.replay (request.onServer server)).run server
    (fun panes => callback panes server.isDryRun) state

/-- A replay and its dry run send the same commands, ask the same questions and
end alike, on servers that answer alike.  A replay can only fall short of its dry
run where a size cannot be resolved or a delay is too long. -/
theorem runOn_agrees_with_dry {State Other : Type} (emission : Emission)
    {request : ReplayRequest} {callback : List String → Bool → Option Value}
    {server : Server State} {dryServer : Server Other} {state : State}
    {dryState : Other} (isLive : server.isDryRun = false)
    (isDry : dryServer.isDryRun = true)
    (alike : server.AnswersLike dryServer state dryState)
    (indifferent : ∀ panes, callback panes true = callback panes false)
    (known : request.KnowsPane) :
    let run := emission.runOn request callback server state
    let dryRun := emission.runOn request callback dryServer dryState
    run.AgreesWith dryRun ∨
      ∃ error, run.StopsWithin dryRun error ∧
        (LacksSize emission.steps run.events error ∨
          DelayTooLong request emission.terminals error) := by
  intro run dryRun
  have consents : (fun panes => callback panes dryServer.isDryRun) =
      fun panes => callback panes server.isDryRun := by
    funext panes
    rw [isLive, isDry, indifferent]
  have isRun : run = (emission.replay request.live).run server
      (fun panes => callback panes server.isDryRun) state := by
    simp only [run, runOn, ReplayRequest.onServer, isLive, ReplayRequest.live]
  have isDryRun : dryRun = (emission.replay request.dry).run dryServer
      (fun panes => callback panes server.isDryRun) dryState := by
    rw [← consents]
    simp only [dryRun, runOn, ReplayRequest.onServer, isDry, ReplayRequest.dry]
  rw [isRun, isDryRun]
  exact ((rehearsed_replay known []).run alike _).agrees_or_stops

/-! ### Runs that agree and runs that do not -/

/-- A pane of a fixed size beside one that is typed into after a delay. -/
def fixedBesideDelayed : Emission where
  steps := [
    .split {
      id := "root:split:1"
      summary := ""
      targetPaneId := some "root.0"
      createdPaneId := some "root.1"
      orientation := some .horizontal
      sizing := some (.dynamic {
        target := .cells 40 (by decide)
        remainingCells := 0
        remainingWeight := 1
        remainingWeightCount := 1 }) },
    .focus {
      id := "root.1:focus"
      summary := ""
      targetPaneId := some "root.1" }]
  terminals := [
    { virtualPaneId := "root.0", name := "left" },
    { virtualPaneId := "root.1", name := "right", command := some "top",
      delay := some 50 }]
  summary := {
    stepsCount := 2, focusPaneId := "root.1", initialPaneId := "root.0" }
  hash := ""

theorem runOn_agrees_fixedBesideDelayed :
    let request : ReplayRequest := {
      mode := WindowMode.currentWindow.name
      currentPane := some "%0"
      asks := true }
    let callback : List String → Bool → Option Value :=
      fun _ _ => some (.bool true)
    let start : ScriptedWindow := { panes := ["%0", "%1"], nextNumber := 2 }
    let run := fixedBesideDelayed.runOn request callback
      (ScriptedWindow.server { size := "100" }) start
    let dryRun := fixedBesideDelayed.runOn request callback
      (ScriptedWindow.server { size := "100", isDryRun := true }) start
    run.AgreesWith dryRun ∧ run.ending = .returned ⟨2, "root.1"⟩ ∧
      run.questions = [["%1"]] ∧ run.waits.length = 1 := by
  intro request callback start run dryRun
  have ending : run.ending = .returned ⟨2, "root.1"⟩ :=
    Ending.eq_returned (by decide +kernel)
  refine ⟨?_, ending, by decide +kernel, by decide +kernel⟩
  have known : request.KnowsPane := .inr (by decide)
  have indifferent : ∀ panes, callback panes true = callback panes false :=
    fun _ => rfl
  rcases runOn_agrees_with_dry fixedBesideDelayed rfl rfl
      (ScriptedWindow.answersLike_dry { size := "100" } start) indifferent known with
    agrees | ⟨error, stops, _⟩
  · exact agrees
  · cases ending.symm.trans stops.ending

/-- A single pane with a delay beyond the range of doubles. -/
def endlessDelay : Emission where
  steps := []
  terminals := [
    { virtualPaneId := "root", name := "a", command := some "x",
      delay := some (10 ^ 400) }]
  summary := { stepsCount := 0, focusPaneId := "root", initialPaneId := "root" }
  hash := ""

/-- A delay stops a replay although its dry run returns, without any size to
resolve. -/
theorem runOn_differs_endlessDelay :
    let callback : List String → Bool → Option Value := fun _ _ => none
    let server := ScriptedWindow.server {}
    let dryServer := ScriptedWindow.server { isDryRun := true }
    endlessDelay.steps = [] ∧ ReplayRequest.KnowsPane {} ∧
      server.AnswersLike dryServer {} {} ∧
      (endlessDelay.runOn {} callback server {}).ending =
        .failed (.fault .numberTooLarge) ∧
      (endlessDelay.runOn {} callback dryServer {}).ending =
        .returned ⟨0, "root"⟩ ∧
      (endlessDelay.runOn {} callback server {}).commands ≠
        (endlessDelay.runOn {} callback dryServer {}).commands := by
  intro callback server dryServer
  refine ⟨rfl, .inl rfl, ScriptedWindow.answersLike_dry {} {},
    Prepared.eq_of_fault? ?_, Ending.eq_returned ?_, ?_⟩
  · decide +kernel
  · decide +kernel
  · decide +kernel

end Emission

end PaneLayout
