import PaneLayout.Proofs.Plan.Sized
import PaneLayout.Proofs.Replay.CellCount
import PaneLayout.Proofs.Replay.Divide
import PaneLayout.Proofs.Replay.Progress
import PaneLayout.Proofs.Session.History
import PaneLayout.Server.Scripted

/-!
# What a replay fails with

Whatever a server answers, a replay of an accepted preset returns or fails with
an error that is reported as a failure of the execution.  There are two
exceptions.  The output that gives the size of a pane may look like a number and
not be one, or the cells that are left for the weights may be beyond the range
of doubles; that output is then the last thing that happens.  And a terminal may
ask for a wait that is longer than the clock can time.
-/

namespace PaneLayout

namespace Replay

/-- The last thing that happened is an output that a dynamic split of the steps
cannot be sized with. -/
def ChokedOn (steps : List Step) (events : List Event) (cause : Fault) :
    Prop :=
  ∃ before orientation target output step sizing,
    events = before ++ [.sent (sizeQuery orientation target) (.ok output)] ∧
    .split step ∈ steps ∧ step.sizing = some (.dynamic sizing) ∧
    sizing.ChokesOn output cause

/-- Waiting as long as a terminal asks for is more than the clock can do. -/
def OutlastsClock (terminals : List EmittedTerminal) (request : ReplayRequest)
    (cause : Fault) : Prop :=
  request.isDryRun = false ∧ cause = .waitTooLong ∧
    ∃ terminal ∈ terminals, ∃ milliseconds longest,
      terminal.delay = some milliseconds ∧
      request.longestWait = some longest ∧ longest < milliseconds

/-- An error is reported, or it is the fault of an output or of a delay. -/
def Explained {α : Type} (emission : Emission) (request : ReplayRequest)
    (events : List Event) : Except ReplayError α → Prop
  | .ok _ => True
  | .error error =>
      error.IsReported ∨
        ∃ cause, error = .fault cause ∧
          (ChokedOn emission.steps events cause ∨
            OutlastsClock emission.terminals request cause)

/-- Whatever happened before, the errors of a part are explained by what happens
in it. -/
def Explains {α : Type} (emission : Emission) (request : ReplayRequest)
    (part : Part α) : Prop :=
  ∀ past, part.Heeds (fun _ _ => True) (Explained emission request) past

section Explains

variable {α β : Type} {emission : Emission} {request : ReplayRequest}
  {part : Part α}

theorem explains_ok (value : α) :
    Explains emission request (.done (.ok value) : Part α) :=
  fun _ => .done trivial

theorem explains_reported {error : ReplayError} (reported : error.IsReported) :
    Explains emission request (.done (.error error) : Part α) :=
  fun _ => .done (.inl reported)

theorem Explains.bind {continue_ : α → Part β} (explains : Explains emission request part)
    (rest : ∀ value, Explains emission request (continue_ value)) :
    Explains emission request (part >>= continue_) :=
  fun past => (explains past).bind (fun _ value _ => rest value _)
    fun _ _ explained => explained

theorem explains_ofExcept {result : Except ReplayError α}
    (reported : ∀ error, result = .error error → error.IsReported) :
    Explains emission request (Session.ofExcept result) := by
  cases result with
  | ok value => exact explains_ok value
  | error error => exact explains_reported (reported error rfl)

theorem command_isReported (message : String) (details : Entries Value)
    (error : CallError) (path : String) :
    (ReplayError.command message details error path).IsReported := by
  cases error <;> exact ⟨_, rfl, rfl⟩

theorem explains_perform (command : Command) (message path : String)
    (details : Entries Value) :
    Explains emission request (perform command message path details) := by
  refine fun past => .send (fun _ => trivial) fun answer => ?_
  cases answer with
  | ok output => exact explains_ok output _
  | error error => exact explains_reported (command_isReported _ _ _ _) _

theorem explains_listPanes (path : String) :
    Explains emission request (listPanes path) :=
  (explains_perform _ _ _ _).bind fun _ => explains_ok _

/-! ### Acquiring a window -/

theorem explains_currentPane (request : ReplayRequest) (path : String) :
    Explains emission request (currentPane request path) := by
  unfold currentPane
  dsimp only
  split
  · exact explains_ok _
  · split
    · exact explains_ok _
    · refine (explains_perform _ _ _ _).bind fun output => ?_
      split
      · exact explains_reported ⟨_, rfl, rfl⟩
      · exact explains_ok _

theorem explains_confirmClosing (request : ReplayRequest)
    (panes : List String) (path : String) :
    Explains emission request (confirmClosing request panes path) := by
  unfold confirmClosing
  split
  · refine fun past => .ask trivial fun answer => ?_
    split
    · exact explains_ok _ _
    · exact explains_reported ⟨_, rfl, rfl⟩ _
  · exact explains_ok _

theorem explains_acquire (request : ReplayRequest) (path : String)
    (mode : WindowMode) : Explains emission request (acquire request path mode) := by
  cases mode with
  | newWindow => exact (explains_perform _ _ _ _).bind fun _ => explains_ok _
  | currentWindow =>
      refine (explains_currentPane request path).bind fun current => ?_
      refine (explains_listPanes path).bind fun listed => ?_
      dsimp only
      split
      · refine (explains_confirmClosing request _ path).bind fun _ => ?_
        exact (explains_perform _ _ _ _).bind fun _ => explains_ok _
      · exact explains_ok _

/-! ### Steps -/

theorem explains_targetPane (role : TargetRole) (stepId : String)
    (target : Option String) (panes : PaneMap) :
    Explains emission request (targetPane role stepId target panes) := by
  unfold targetPane
  split
  · exact explains_reported ⟨_, rfl, rfl⟩
  · exact explains_reported ⟨_, rfl, rfl⟩
  · split
    · exact explains_ok _
    · exact explains_reported ⟨_, rfl, rfl⟩

/-- Only here a fault is possible, and it is that of the output. -/
theorem explains_dynamicSize {step : SplitStep} {sizing : DynamicSizing}
    (member : .split step ∈ emission.steps)
    (isDynamic : step.sizing = some (.dynamic sizing))
    (planned : sizing.IsPlanned) (request : ReplayRequest)
    (orientation : Orientation) (target : String) :
    Explains emission request
      (dynamicSize request step.id orientation sizing target) := by
  rw [dynamicSize_eq, perform, Session.send_bind]
  refine fun past => .send (fun _ => trivial) fun answer => ?_
  cases answer with
  | error error => exact explains_reported (command_isReported _ _ _ _) _
  | ok output =>
      refine .done ?_
      have outcome := sizeText_outcome planned request step.id output
      generalize sizeText request step.id sizing output = result at outcome
      cases outcome with
      | resolved => exact trivial
      | placeholder => exact trivial
      | unresolved _ isFailure stage _ => exact .inl ⟨_, isFailure, stage⟩
      | @choked cause chokes =>
          exact .inr ⟨cause, rfl, .inl ⟨past, orientation, target, output, step,
            sizing, rfl, member, isDynamic, chokes⟩⟩

theorem explains_splitCommand {step : SplitStep}
    (member : .split step ∈ emission.steps) (sized : (Step.split step).IsSized)
    (request : ReplayRequest) (target : String) :
    Explains emission request (splitCommand request step target) := by
  obtain ⟨sizing, hasSizing, planned⟩ := sized
  unfold splitCommand
  split
  · exact explains_reported ⟨_, rfl, rfl⟩
  · next orientation _ =>
    dsimp only
    rw [hasSizing]
    cases sizing with
    | dynamic sizing =>
        exact (explains_dynamicSize member hasSizing planned request orientation
          target).bind fun _ => explains_ok _
    | percent percentage =>
        dsimp only
        rw [clampPercentage_whole planned]
        exact explains_ok _

theorem explains_splitPane {step : SplitStep} (member : .split step ∈ emission.steps)
    (sized : (Step.split step).IsSized) (request : ReplayRequest)
    (panes : PaneMap) : Explains emission request (splitPane request step panes) := by
  refine (explains_targetPane _ _ _ panes).bind fun ⟨target, panes⟩ => ?_
  refine (explains_listPanes _).bind fun before => ?_
  refine (explains_splitCommand member sized request target).bind
    fun command => ?_
  refine (explains_perform _ _ _ _).bind fun _ => ?_
  refine (explains_listPanes _).bind fun listed => ?_
  split
  · exact explains_reported ⟨_, rfl, rfl⟩
  · split
    · exact explains_ok _
    · exact explains_ok _
    · exact fun past => .note trivial (explains_ok _ _)

theorem explains_executeStep {step : Step} (member : step ∈ emission.steps)
    (sized : step.IsSized) (request : ReplayRequest) (panes : PaneMap) :
    Explains emission request (executeStep request panes step) := by
  cases step with
  | split step => exact explains_splitPane member sized request panes
  | focus step =>
      refine (explains_targetPane _ _ _ panes).bind fun ⟨target, panes⟩ => ?_
      exact (explains_perform _ _ _ _).bind fun _ => explains_ok _
  | unsupported kind id => exact explains_reported ⟨_, rfl, rfl⟩

theorem explains_executeSteps {later : List Step} (part : later ⊆ emission.steps)
    (sized : ∀ step ∈ later, step.IsSized) (request : ReplayRequest)
    (panes : PaneMap) : Explains emission request (executeSteps request panes later) := by
  induction later generalizing panes with
  | nil => exact explains_ok _
  | cons step later induction =>
      obtain ⟨member, rest⟩ := List.cons_subset.mp part
      obtain ⟨first, others⟩ := List.forall_mem_cons.mp sized
      exact (explains_executeStep member first request panes).bind
        (induction rest others)

/-! ### Terminals -/

theorem explains_typeLine (pane line path action : String)
    (details : Entries Value) :
    Explains emission request (typeLine pane line path action details) :=
  (explains_perform _ _ _ _).bind fun _ => explains_ok _

theorem commandLine_reported {terminal : EmittedTerminal} {panes : TokenPanes}
    {error : ReplayError} (failed : commandLine terminal panes = .error error) :
    error.IsReported := by
  unfold commandLine at failed
  dsimp only at failed
  cases replaced : Template.replace panes (terminal.command.getD "") with
  | error token =>
      rw [replaced] at failed
      cases failed
      exact ⟨_, rfl, rfl⟩
  | ok line =>
      rw [replaced] at failed
      simp only [pure_bind] at failed
      split at failed
      · cases failed
      · split at failed <;> cases failed

/-- A delay that is in range can be told in seconds. -/
theorem quotient_thousand {milliseconds : Int} {power : Nat}
    (due : 0 < milliseconds) (small : power < 1024)
    (below : milliseconds < 2 ^ (power + 9)) :
    ∃ seconds, Binary64.quotient milliseconds 1000 = .ok seconds := by
  obtain ⟨n, rfl⟩ := Int.eq_ofNat_of_zero_le due.le
  refine @Binary64.quotient_ok n 1000 (by omega) (by decide) _
    (Binary64.representable_two_pow small) ?_
  have cast : (n : ℚ) < 2 ^ (power + 9) := by exact_mod_cast below
  rw [div_le_iff₀ (by norm_num)]
  rw [pow_add] at cast
  push_cast
  linarith [pow_pos (two_pos : (0 : ℚ) < 2) power]

/-- A wait that is told in seconds is possible, or it is too long for the
clock. -/
theorem waitSeconds_of_quotient {longest : Option Nat} {milliseconds : Int}
    {seconds : Float}
    (ok : Binary64.quotient milliseconds 1000 = .ok seconds) :
    waitSeconds longest milliseconds = .ok seconds ∨
      waitSeconds longest milliseconds = .error .waitTooLong ∧
        ∃ limit, longest = some limit ∧ limit < milliseconds := by
  unfold waitSeconds
  rw [ok]
  by_cases beyond : longest.any fun (limit : Nat) => decide (limit < milliseconds)
  · obtain ⟨limit, isLimit, below⟩ :=
      (Option.any_eq_true _ _).mp beyond
    exact .inr ⟨if_pos beyond, limit, isLimit, of_decide_eq_true below⟩
  · exact .inl (if_neg beyond)

/-- Only here a delay can be at fault, and it is one that outlasts the clock. -/
theorem explains_waitFor {terminal : EmittedTerminal}
    (member : terminal ∈ emission.terminals)
    (inRange : DelayInRange terminal.delay) (request : ReplayRequest) :
    Explains emission request (waitFor request terminal.delay) := by
  unfold waitFor
  cases delayed : terminal.delay with
  | none => exact explains_ok _
  | some milliseconds =>
    dsimp only
    split
    · exact explains_ok _
    · next due =>
      obtain ⟨positive, live⟩ := not_or.mp due
      obtain ⟨seconds, told⟩ := @quotient_thousand milliseconds 1015
        (by omega) (by norm_num) (inRange milliseconds delayed)
      obtain ok | ⟨failed, limit, isLimit, below⟩ :=
        @waitSeconds_of_quotient request.longestWait _ _ told
      · rw [ok]
        exact fun past => .wait trivial (explains_ok _ _)
      · rw [failed]
        refine fun past => .done (.inr ⟨_, rfl, .inr ⟨?_, rfl, ?_⟩⟩)
        · exact Bool.eq_false_of_not_eq_true live
        · exact ⟨terminal, member, milliseconds, limit, delayed, isLimit, below⟩

theorem explains_setTitle (pane path : String) (title : Option String) :
    Explains emission request (setTitle pane path title) := by
  unfold setTitle
  split
  · exact explains_ok _
  · exact explains_ok _
  · exact (explains_perform _ _ _ _).bind fun _ => explains_ok _

theorem explains_enterDirectory (pane path : String)
    (directory : Option String) :
    Explains emission request (enterDirectory pane path directory) := by
  unfold enterDirectory
  split
  · exact explains_ok _
  · exact explains_ok _
  · exact explains_typeLine _ _ _ _ _

theorem explains_exportAll (pane path : String)
    (assignments : Entries String) :
    Explains emission request (exportAll pane path assignments) := by
  induction assignments with
  | nil => exact explains_ok _
  | cons first rest induction =>
      exact (explains_typeLine _ _ _ _ _).bind fun _ => induction

theorem explains_configure {terminal : EmittedTerminal}
    (member : terminal ∈ emission.terminals)
    (inRange : DelayInRange terminal.delay) (request : ReplayRequest)
    (panes : TokenPanes) :
    Explains emission request (configure request terminal panes) := by
  refine (explains_setTitle _ _ _).bind fun _ => ?_
  refine (explains_enterDirectory _ _ _).bind fun _ => ?_
  refine (explains_exportAll _ _ _).bind fun _ => ?_
  unfold runCommand
  split
  · exact explains_ok _
  · exact explains_ok _
  · refine (explains_ofExcept fun _ => commandLine_reported).bind fun line => ?_
    refine (explains_waitFor member inRange request).bind fun _ => ?_
    exact explains_typeLine _ _ _ _ _

theorem explains_configureAll {terminals : List EmittedTerminal}
    (part : terminals ⊆ emission.terminals)
    (inRange : ∀ terminal ∈ terminals, DelayInRange terminal.delay)
    (request : ReplayRequest) (focusPane : String) (named : Entries String)
    (panes : PaneMap) :
    Explains emission request (configureAll request focusPane named panes terminals) := by
  induction terminals generalizing panes with
  | nil => exact explains_ok _
  | cons terminal terminals induction =>
      obtain ⟨member, others⟩ := List.cons_subset.mp part
      obtain ⟨first, rest⟩ := List.forall_mem_cons.mp inRange
      cases found : panes.lookup terminal.virtualPaneId with
      | none =>
          rw [configureAll_of_unknown found]
          exact explains_reported ⟨_, rfl, rfl⟩
      | some realId =>
          rw [configureAll_of_found found]
          exact (explains_configure member first _ _).bind fun _ =>
            induction others rest _

theorem explains_restoreFocus (focusId : String) (panes : PaneMap) :
    Explains emission request (restoreFocus focusId panes) := by
  unfold restoreFocus
  split
  · exact explains_ok _
  · exact (explains_perform _ _ _ _).bind fun _ => explains_ok _

theorem explains_conclude {emission : Emission} (sized : emission.IsSized)
    (request : ReplayRequest) (panes : PaneMap) :
    Explains emission request (conclude emission request panes) := by
  cases isFocused : panes.get? emission.summary.focusPaneId with
  | none =>
      rw [conclude, configureTerminals, isFocused]
      exact explains_reported ⟨_, rfl, rfl⟩
  | some focusPane =>
      rw [conclude_of_focused isFocused]
      refine (explains_configureAll (List.Subset.refl _) sized.terminals _ _
        _ _).bind fun _ => ?_
      exact (explains_restoreFocus _ _).bind fun _ => explains_ok _

end Explains

/-! ### Whole runs -/

theorem explains_replay {emission : Emission} (sized : emission.IsSized)
    (request : ReplayRequest) :
    Explains emission request (emission.replay request) := by
  rw [Emission.replay_eq]
  split
  · exact explains_reported ⟨_, rfl, rfl⟩
  · split
    · exact explains_reported ⟨_, rfl, rfl⟩
    · refine (explains_acquire _ _ _).bind fun initial => ?_
      rw [afterAcquisition_eq]
      refine fun past => .note trivial (Explains.bind ?_ ?_ _)
      · exact explains_executeSteps (List.Subset.refl _) sized.steps _ _
      · exact explains_conclude sized request

end Replay

/-- A session whose questions are all answered comes to an end. -/
theorem Session.result?_isSome {ε α State : Type} (session : Session ε α)
    (server : Server State) {consent : List String → Option Value}
    (answers : ∀ panes, (consent panes).isSome) (state : State) :
    (session.run server consent state).ending.result?.isSome := by
  induction session generalizing state with
  | done result => cases result <;> rfl
  | send command next induction => exact induction _ _
  | ask panes next induction =>
      obtain ⟨answer, answered⟩ := Option.isSome_iff_exists.mp (answers panes)
      rw [run_ask_answered _ _ answered]
      exact induction answer state
  | wait seconds next induction => exact induction state
  | note virtualId realId next induction => exact induction state

namespace Prepared

/-- Whatever the server answers, a replay of an accepted preset returns, or it
fails with an error that is reported, or the last output that it got is a size
that it chokes on, or it is to wait for longer than the clock can time.  Any
other output for a size resolves the split that asked for it, or it leads to the
placeholder or to an error that says so. -/
theorem replay_returns_or_explains {source : String} {value : Value}
    {prepared : Prepared} (accepted : ofValue source value = .ok prepared)
    {State : Type} (server : Server State)
    {consent : List String → Option Value}
    (answers : ∀ panes, (consent panes).isSome) (request : ReplayRequest)
    (state : State) :
    let run := (prepared.emission.replay request).run server consent state
    ((∃ result, run.ending = .returned result) ∨
      ∃ error, run.ending = .failed error ∧
        (error.IsReported ∨
          ∃ cause, error = .fault cause ∧
            (Replay.ChokedOn prepared.emission.steps run.events cause ∨
              Replay.OutlastsClock prepared.emission.terminals request
                cause))) ∧
    ∀ step sizing, .split step ∈ prepared.emission.steps →
      step.sizing = some (.dynamic sizing) →
      ∀ orientation target output now,
        (server.step (Replay.sizeQuery orientation target) now).1 =
          .ok output →
        ∃ result,
          ((Replay.dynamicSize request step.id orientation sizing target).run
            server consent now).ending.result? = some result ∧
          Replay.SizeOutcome request sizing output result := by
  intro run
  have sized := isSized_ofValue accepted
  constructor
  · have explains := Replay.explains_replay sized request []
    have isSome := Session.result?_isSome (prepared.emission.replay request)
      server answers state
    cases ending : run.ending with
    | returned result => exact .inl ⟨result, rfl⟩
    | failed error =>
        refine .inr ⟨error, rfl, ?_⟩
        exact explains.results_of_run server consent state
          (congrArg Ending.result? ending)
    | unanswered =>
        rw [show (Session.run _ _ _ _).ending = _ from ending] at isSome
        cases isSome
  · intro step sizing member isDynamic orientation target output now answered
    obtain ⟨known, isKnown, planned⟩ := sized.steps _ member
    cases isKnown.symm.trans isDynamic
    exact Replay.dynamicSize_outcome planned request step.id answered consent

/-- A pane of a fixed size beside one that takes the rest. -/
def fixedBesideRest : Value :=
  .mapping [(.text "layout", .mapping [
    (.text "type", .text "horizontal"),
    (.text "ratio", .list [.int 1, .text "30c"]),
    (.text "panes", .list [
      .mapping [(.text "name", .text "left")],
      .mapping [(.text "name", .text "right")]])])]

/-- The run for a server that prints a size, with consent to everything. -/
def runWithSize (prepared : Prepared) (size : String) :
    Run ReplayError ReplayResult ScriptedWindow :=
  (prepared.emission.replay {}).run (ScriptedWindow.server { size })
    (fun _ => some (.bool true)) {}

/-- The fault that a run of a replay ended with. -/
def fault? : Ending ReplayError ReplayResult → Option Fault
  | .failed (.fault cause) => some cause
  | _ => none

theorem eq_of_fault? {ending : Ending ReplayError ReplayResult} {cause : Fault}
    (isFault : fault? ending = some cause) :
    ending = .failed (.fault cause) := by
  unfold fault? at isFault
  split at isFault
  · cases isFault
    rfl
  · cases isFault

/-- The superscript looks like a digit. -/
theorem ending_superscript :
    ∃ prepared, ofValue "local" fixedBesideRest = .ok prepared ∧
      (prepared.runWithSize "²").ending =
        .failed (.fault .malformedNumeral) := by
  have evaluated : (ofValue "local" fixedBesideRest).toOption.bind
      (fun prepared => fault? (prepared.runWithSize "²").ending) =
        some .malformedNumeral := by
    decide +kernel
  obtain ⟨prepared, isPrepared, isFault⟩ := Option.bind_eq_some_iff.mp evaluated
  cases accepted : ofValue "local" fixedBesideRest with
  | error problem =>
      rw [accepted] at isPrepared
      cases isPrepared
  | ok known =>
      rw [accepted] at isPrepared
      cases isPrepared
      exact ⟨prepared, rfl, eq_of_fault? isFault⟩

theorem replay_explains_superscript :
    ∃ prepared, ofValue "local" fixedBesideRest = .ok prepared ∧
      Replay.ChokedOn prepared.emission.steps
        (prepared.runWithSize "²").events .malformedNumeral := by
  obtain ⟨prepared, accepted, ending⟩ := ending_superscript
  refine ⟨prepared, accepted, ?_⟩
  let consent : List String → Option Value := fun _ => some (.bool true)
  have answers : ∀ panes, (consent panes).isSome := fun _ => rfl
  have outcome := (replay_returns_or_explains accepted
    (ScriptedWindow.server { size := "²" }) answers {} {}).1
  rcases outcome with ⟨result, returned⟩ | ⟨error, failed, explained⟩
  · cases ending.symm.trans returned
  · cases ending.symm.trans failed
    rcases explained with ⟨failure, reported, _⟩ |
      ⟨cause, same, choked | ⟨_, isLong, _⟩⟩
    · cases reported
    · cases same
      exact choked
    · cases same
      cases isLong

/-- A replay may fail with an error that is not reported. -/
theorem replay_fails_unreported :
    ∃ prepared error, ofValue "local" fixedBesideRest = .ok prepared ∧
      (prepared.runWithSize "²").ending = .failed error ∧
        ¬ error.IsReported := by
  obtain ⟨prepared, accepted, ending⟩ := ending_superscript
  refine ⟨prepared, _, accepted, ending, ?_⟩
  rintro ⟨failure, reported, _⟩
  cases reported

end Prepared

end PaneLayout
