import PaneLayout.Proofs.PaneMap
import PaneLayout.Proofs.Replay.Progress
import PaneLayout.Proofs.Replay.Reported

/-!
# The commands that are shown and those that are sent

An emission shows a command for each of its steps, with ids of the plan for the
panes and a placeholder for a size that is not known yet.  A replay builds the
command that it sends from what else the step says.  The two are the same but
for the pane of the target and for the size, step for step.
-/

namespace PaneLayout

/-- The command divides a pane or makes one active. -/
def Command.Arranges (command : Command) : Prop :=
  command.head? = some "split-window" ∨ command.head? = some "select-pane"

instance (command : Command) : Decidable command.Arranges :=
  inferInstanceAs (Decidable (_ ∨ _))

/-- The commands among some events that divide a pane or make one active. -/
def arrangementsOf (events : List Event) : List Command :=
  (commandsOf events).filter fun command => decide command.Arranges

theorem arrangementsOf_append (first later : List Event) :
    arrangementsOf (first ++ later) =
      arrangementsOf first ++ arrangementsOf later := by
  rw [arrangementsOf, commandsOf_append, List.filter_append]
  rfl

theorem arrangementsOf_eq_nil {events : List Event}
    (none : ∀ command answer, .sent command answer ∈ events →
      ¬ command.Arranges) :
    arrangementsOf events = [] := by
  rw [arrangementsOf, List.filter_eq_nil_iff]
  intro command member
  obtain ⟨event, isEvent, sent⟩ := List.mem_filterMap.mp member
  cases event with
  | sent known answer =>
      cases sent
      simpa using none command answer isEvent
  | _ => cases sent

/-! ### What a step shows -/

/-- A split step shows the division of its target, with an option for the
size. -/
structure SplitStep.Shows (step : SplitStep) (orientation : Orientation)
    (target option size : String) : Prop where
  command : step.command = Command.dividing orientation target option size
  target : step.targetPaneId = some target
  orientation : step.orientation = some orientation

/-- What a step shows agrees with what else it says. -/
inductive Step.IsShown : Step → Prop where
  | percent {step : SplitStep} {orientation : Orientation} {target : String}
      {percentage : Int} :
      step.Shows orientation target "-p" (toString percentage) →
      step.percentage = some percentage →
      step.sizing = some (.percent percentage) →
      Sizing.IsGivable (.percent percentage) → IsShown (.split step)
  | dynamic {step : SplitStep} {orientation : Orientation} {target : String}
      {sizing : DynamicSizing} :
      step.Shows orientation target "-l" dynamicSizePlaceholder →
      step.sizing = some (.dynamic sizing) → IsShown (.split step)
  | focus {step : FocusStep} {target : String} :
      step.command = ["select-pane", "-t", target] →
      step.targetPaneId = some target → IsShown (.focus step)

namespace PlanNode

theorem splitStep_isShown {id : String} {orientation : Orientation}
    {ratio : Ratio} {index : Nat} {target created : String} {step : Step}
    (ok : splitStep id orientation ratio index target created = .ok step) :
    step.IsShown := by
  obtain ⟨size, sized, made⟩ := exists_of_bind_eq_ok ok
  cases made
  have givable := stepSize_isGivable sized
  unfold stepSize at sized
  split at sized
  · obtain ⟨sizing, _, made⟩ := exists_of_bind_eq_ok sized
    cases made
    exact .dynamic ⟨rfl, rfl, rfl⟩ rfl
  · obtain ⟨percentage, _, made⟩ := exists_of_bind_eq_ok sized
    cases made
    exact .percent ⟨rfl, rfl, rfl⟩ rfl rfl givable

end PlanNode

theorem Plan.emit_areShown {plan : Plan} {emission : Emission}
    (ok : plan.emit = .ok emission) :
    ∀ step ∈ emission.steps, step.IsShown := by
  obtain ⟨splits, splitsOk, ok⟩ := exists_of_bind_eq_ok ok
  obtain ⟨initial, _, ok⟩ := exists_of_bind_eq_ok ok
  obtain ⟨hash, _, made⟩ := exists_of_bind_eq_ok ok
  cases made
  rw [List.forall_mem_append]
  refine ⟨fun step member => ?_,
    List.forall_mem_singleton.mpr (.focus rfl rfl)⟩
  obtain ⟨_, _, _, _, _, _, _, made⟩ :=
    PlanNode.splitSteps_madeFor splitsOk step member
  exact PlanNode.splitStep_isShown made

namespace Replay

/-! ### What a step sends -/

/-- With these panes recorded, and with these events while it is carried out, a
step sends the command that it shows, but for two words: the real pane of the
target replaces the target, and the number of cells of the new pane replaces the
placeholder of a size.  The placeholder stays if a dry run cannot size the
split. -/
inductive Sends (request : ReplayRequest) (panes : PaneMap)
    (events : List Event) : Step → Command → Prop where
  | percent {step : SplitStep} {orientation : Orientation}
      {target pane : String} {percentage : Int} :
      step.Shows orientation target "-p" (toString percentage) →
      step.percentage = some percentage →
      leastPercentage ≤ percentage → percentage ≤ greatestPercentage →
      panes.lookup target = some pane →
      Sends request panes events (.split step)
        (.dividing orientation pane "-p" (toString percentage))
  | cells {step : SplitStep} {orientation : Orientation}
      {target pane output : String} {sizing : DynamicSizing} {cells : Int}
      {split : CellSplit} :
      step.Shows orientation target "-l" dynamicSizePlaceholder →
      step.sizing = some (.dynamic sizing) →
      panes.lookup target = some pane →
      .sent (sizeQuery orientation pane) (.ok output) ∈ events →
      paneCells output = .ok (some cells) →
      sizing.resolve (some cells) = .ok split →
      Sends request panes events (.split step)
        (.dividing orientation pane "-l" (toString split.created))
  | placeholder {step : SplitStep} {orientation : Orientation}
      {target pane output : String} {sizing : DynamicSizing}
      {cells : Option Int} :
      step.Shows orientation target "-l" dynamicSizePlaceholder →
      step.sizing = some (.dynamic sizing) →
      panes.lookup target = some pane →
      request.isDryRun = true →
      .sent (sizeQuery orientation pane) (.ok output) ∈ events →
      paneCells output = .ok cells →
      sizing.resolve cells = .error .unknownSize ∨
        sizing.resolve cells = .error .tooSmall →
      Sends request panes events (.split step)
        (.dividing orientation pane "-l" dynamicSizePlaceholder)
  | focus {step : FocusStep} {target pane : String} :
      step.command = ["select-pane", "-t", target] →
      step.targetPaneId = some target →
      panes.lookup target = some pane →
      Sends request panes events (.focus step) ["select-pane", "-t", pane]

/-- More events do not change what is sent. -/
theorem Sends.mono {request : ReplayRequest} {panes : PaneMap}
    {events moreEvents : List Event} {step : Step} {command : Command}
    (sends : Sends request panes events step command)
    (more : events ⊆ moreEvents) :
    Sends request panes moreEvents step command := by
  cases sends with
  | percent shows isPercentage least greatest found =>
      exact .percent shows isPercentage least greatest found
  | cells shows isSizing found asked read resolved =>
      exact .cells shows isSizing found (more asked) read resolved
  | placeholder shows isSizing found dry asked read unresolved =>
      exact .placeholder shows isSizing found dry (more asked) read unresolved
  | focus shows isTarget found => exact .focus shows isTarget found

section Run

variable {State : Type} {server : Server State}
  {consent : List String → Option Value} {state next : State}
  {request : ReplayRequest} {events : List Event}

/-- A step goes on with the pane that its target resolves to, and nothing has
happened yet. -/
theorem of_run_targetPane {role : TargetRole} {stepId : String}
    {target : Option String} {panes : PaneMap} {found : String × PaneMap}
    (returned : (targetPane role stepId target panes).run server consent
      state = ⟨events, .returned found, next⟩) :
    events = [] ∧ ∃ id, target = some id ∧ panes.lookup id = some found.1 := by
  unfold targetPane at returned
  split at returned
  · cases returned
  · cases returned
  · next id _ =>
    cases isFound : panes.lookup id with
    | none =>
        rw [PaneMap.resolve_of_unknown isFound] at returned
        cases returned
    | some realId =>
        rw [PaneMap.resolve_of_found isFound] at returned
        cases returned
        exact ⟨rfl, id, rfl, isFound⟩

theorem arrangementsOf_listPanes {path : String} {listed : List String}
    (returned : (listPanes path).run server consent state =
      ⟨events, .returned listed, next⟩) :
    arrangementsOf events = [] := by
  obtain ⟨before, output, _, later, asked, rest, rfl⟩ :=
    Session.exists_of_run_bind returned
  cases sent_of_run_perform asked
  cases rest
  rfl

/-- The size of a split is what the answer to the query comes to. -/
theorem of_run_dynamicSize {stepId target size : String}
    {orientation : Orientation} {sizing : DynamicSizing}
    (returned : (dynamicSize request stepId orientation sizing target).run
      server consent state = ⟨events, .returned size, next⟩) :
    ∃ output, events = [.sent (sizeQuery orientation target) (.ok output)] ∧
      sizeText request stepId sizing output = .ok size := by
  rw [dynamicSize_eq] at returned
  obtain ⟨before, output, middle, later, asked, rest, rfl⟩ :=
    Session.exists_of_run_bind returned
  cases sent_of_run_perform asked
  cases written : sizeText request stepId sizing output with
  | error error =>
      rw [written] at rest
      cases rest
  | ok known =>
      rw [written] at rest
      cases rest
      exact ⟨output, rfl, written⟩

/-- A size is a number of cells, or the placeholder in a dry run. -/
theorem sizeText_cases {stepId output size : String} {sizing : DynamicSizing}
    (written : sizeText request stepId sizing output = .ok size) :
    (∃ cells split, paneCells output = .ok (some cells) ∧
        sizing.resolve (some cells) = .ok split ∧
        size = toString split.created) ∨
      (request.isDryRun = true ∧ size = dynamicSizePlaceholder ∧
        ∃ cells, paneCells output = .ok cells ∧
          (sizing.resolve cells = .error .unknownSize ∨
            sizing.resolve cells = .error .tooSmall)) := by
  unfold sizeText at written
  cases read : paneCells output with
  | error cause =>
      rw [read] at written
      cases written
  | ok cells =>
      rw [read] at written
      dsimp only [resolvedSize] at written
      cases resolved : sizing.resolve cells with
      | ok split =>
          rw [resolved] at written
          dsimp only [wholeText] at written
          cases cells with
          | none => cases resolved
          | some cells =>
              split at written
              · cases written
                exact .inl ⟨cells, split, rfl, resolved, rfl⟩
              · cases written
      | error error =>
          rw [resolved] at written
          cases error with
          | fault cause => cases written
          | unknownSize =>
              dsimp only at written
              split at written
              · next dry =>
                cases written
                exact .inr ⟨dry, rfl, cells, rfl, .inl resolved⟩
              · cases written
          | tooSmall =>
              dsimp only at written
              split at written
              · next dry =>
                cases written
                exact .inr ⟨dry, rfl, cells, rfl, .inr resolved⟩
              · cases written

/-- The command of a split step is the one that it shows. -/
theorem sends_of_run_splitCommand {step : SplitStep} {panes : PaneMap}
    {id target : String} {command : Command}
    (shown : (Step.split step).IsShown) (isTarget : step.targetPaneId = some id)
    (found : panes.lookup id = some target)
    (returned : (splitCommand request step target).run server consent state =
      ⟨events, .returned command, next⟩) :
    arrangementsOf events = [] ∧ command.Arranges ∧
      Sends request panes events (.split step) command := by
  unfold splitCommand at returned
  cases shown with
  | percent shows isPercentage isSizing givable =>
      cases shows.target.symm.trans isTarget
      rw [shows.orientation, isSizing] at returned
      dsimp only at returned
      rw [clampPercentage_whole givable] at returned
      cases returned
      exact ⟨rfl, .inl rfl,
        .percent shows isPercentage givable.1 givable.2 found⟩
  | dynamic shows isSizing =>
      cases shows.target.symm.trans isTarget
      rw [shows.orientation, isSizing] at returned
      dsimp only at returned
      obtain ⟨before, size, _, later, asked, rest, rfl⟩ :=
        Session.exists_of_run_bind returned
      cases rest
      obtain ⟨output, rfl, written⟩ := of_run_dynamicSize asked
      refine ⟨rfl, .inl rfl, ?_⟩
      rcases sizeText_cases written with
        ⟨cells, split, read, resolved, rfl⟩ |
          ⟨dry, rfl, cells, read, unresolved⟩
      · exact .cells shows isSizing found (List.mem_cons_self) read resolved
      · exact .placeholder shows isSizing found dry (List.mem_cons_self) read
          unresolved

/-- A split step sends one command that arranges panes, the one that it
shows. -/
theorem sends_of_run_splitPane {step : SplitStep} {panes built : PaneMap}
    (shown : (Step.split step).IsShown)
    (returned : (splitPane request step panes).run server consent state =
      ⟨events, .returned built, next⟩) :
    ∃ command, arrangementsOf events = [command] ∧
      Sends request panes events (.split step) command := by
  obtain ⟨_, ⟨target, known⟩, _, _, aimed, afterTarget, rfl⟩ :=
    Session.exists_of_run_bind returned
  obtain ⟨rfl, id, isTarget, found⟩ := of_run_targetPane aimed
  obtain ⟨_, before, _, _, listed, afterListing, rfl⟩ :=
    Session.exists_of_run_bind afterTarget
  obtain ⟨_, command, _, _, chosen, afterCommand, rfl⟩ :=
    Session.exists_of_run_bind afterListing
  obtain ⟨_, output, _, _, divided, afterDivision, rfl⟩ :=
    Session.exists_of_run_bind afterCommand
  obtain ⟨_, after, _, last, relisted, recorded, rfl⟩ :=
    Session.exists_of_run_bind afterDivision
  obtain ⟨quiet, arranges, sends⟩ :=
    sends_of_run_splitCommand shown isTarget found chosen
  cases sent_of_run_perform divided
  have noted : arrangementsOf last = [] := by
    split at recorded
    · cases recorded
    · split at recorded <;>
        · cases recorded
          rfl
  refine ⟨command, ?_, sends.mono fun event member => by simp [member]⟩
  simp only [arrangementsOf_append, arrangementsOf_listPanes listed, quiet,
    arrangementsOf_listPanes relisted, noted, List.nil_append, List.append_nil]
  simp [arrangementsOf, commandsOf, Event.command?, arranges]

theorem sends_of_run_focusPane {step : FocusStep} {panes built : PaneMap}
    (shown : (Step.focus step).IsShown)
    (returned : (focusPane step panes).run server consent state =
      ⟨events, .returned built, next⟩) :
    ∃ command, arrangementsOf events = [command] ∧
      Sends request panes events (.focus step) command := by
  cases shown with
  | focus shows isTarget =>
    obtain ⟨_, ⟨target, known⟩, _, _, aimed, afterTarget, rfl⟩ :=
      Session.exists_of_run_bind returned
    obtain ⟨rfl, id, isKnown, found⟩ := of_run_targetPane aimed
    cases isTarget.symm.trans isKnown
    obtain ⟨_, output, _, _, selected, kept, rfl⟩ :=
      Session.exists_of_run_bind afterTarget
    cases sent_of_run_perform selected
    cases kept
    exact ⟨_, rfl, .focus shows isTarget found⟩

/-- A step that returns sends one command that arranges panes, the one that it
shows. -/
theorem sends_of_run_executeStep {step : Step} {panes built : PaneMap}
    (shown : step.IsShown)
    (returned : (executeStep request panes step).run server consent state =
      ⟨events, .returned built, next⟩) :
    ∃ command, arrangementsOf events = [command] ∧
      Sends request panes events step command := by
  cases step with
  | split step => exact sends_of_run_splitPane shown returned
  | focus step => exact sends_of_run_focusPane shown returned
  | unsupported kind id => cases shown

end Run

end Replay

/-! ### Performances of prepared presets -/

namespace Prepared

open Replay

/-- A performance for a server that prints a size. -/
def performance (prepared : Prepared) (size : String) (isDryRun : Bool) :
    Performance ScriptedWindow where
  emission := prepared.emission
  request := { isDryRun }
  server := ScriptedWindow.server { size, isDryRun }
  consent := fun _ => some (.bool true)
  start := {}

/-- What a performance returned, with the commands that it sent. -/
def returned? (performance : Performance ScriptedWindow) :
    Option (ReplayResult × List Command) :=
  match performance.run.ending with
  | .returned result => some (result, performance.run.commands)
  | _ => none

theorem returned_of_returned? {performance : Performance ScriptedWindow}
    {result : ReplayResult} {commands : List Command}
    (isReturned : returned? performance = some (result, commands)) :
    performance.run.ending = .returned result ∧
      performance.run.commands = commands := by
  unfold returned? at isReturned
  split at isReturned
  · next ending =>
    cases isReturned
    exact ⟨ending, rfl⟩
  · cases isReturned

/-- A performance of a prepared preset returns, by evaluation. -/
theorem exists_returned {source size : String} {value : Value} {isDryRun : Bool}
    {result : ReplayResult} {commands : List Command}
    (evaluated : (ofValue source value).toOption.bind
      (fun prepared => returned? (prepared.performance size isDryRun)) =
        some (result, commands)) :
    ∃ prepared, ofValue source value = .ok prepared ∧
      (prepared.performance size isDryRun).run.ending = .returned result ∧
      (prepared.performance size isDryRun).run.commands = commands := by
  obtain ⟨prepared, isPrepared, isReturned⟩ :=
    Option.bind_eq_some_iff.mp evaluated
  cases accepted : ofValue source value with
  | error problem =>
      rw [accepted] at isPrepared
      cases isPrepared
  | ok known =>
      rw [accepted] at isPrepared
      cases isPrepared
      exact ⟨prepared, rfl, returned_of_returned? isReturned⟩

end Prepared

namespace Replay

namespace Performance

variable {State : Type} {performance : Performance State}

/-! ### Whole runs -/

/-- From one point to another the performance carries out steps in order.  Each
of them sends one command that arranges panes, the one that it shows. -/
inductive CarriesOut (performance : Performance State) :
    List Step → Point State → List Command → Point State → Prop where
  | nil {point : Point State} : CarriesOut performance [] point [] point
  | cons {step : Step} {steps : List Step} {point built : Point State}
      {events : List Event} {panes : PaneMap} {state : State}
      {command : Command} {commands : List Command} :
      performance.runPart (executeStep performance.request point.panes step)
        point.state = ⟨events, .returned panes, state⟩ →
      arrangementsOf events = [command] →
      Sends performance.request point.panes events step command →
      CarriesOut performance steps ⟨point.events ++ events, panes, state⟩
        commands built →
      CarriesOut performance (step :: steps) point (command :: commands) built

/-- The commands that are sent are those of the steps that are carried out. -/
theorem CarriesOut.arrangementsOf_eq {steps : List Step}
    {point built : Point State} {commands : List Command}
    (carries : performance.CarriesOut steps point commands built) :
    arrangementsOf built.events = arrangementsOf point.events ++ commands := by
  induction carries with
  | nil => rw [List.append_nil]
  | cons _ sent _ _ induction =>
      rw [induction, arrangementsOf_append, sent, List.append_assoc]
      rfl

/-- In a run that returns, the first part of what is left returns. -/
theorem Reaches.exists_returned {α : Type} {point : Point State}
    {part : Part α} {continue_ : α → Part ReplayResult}
    {result : ReplayResult}
    (reaches : performance.Reaches point (part >>= continue_))
    (returned : performance.run.ending = .returned result) :
    ∃ events value state, performance.runPart part point.state =
      ⟨events, .returned value, state⟩ := by
  rw [show performance.run = _ from reaches] at returned
  exact Session.exists_of_returned_bind returned

/-- In a run that returns, all the steps that are left are carried out. -/
theorem Stepping.exists_carriesOut {steps : List Step} {point : Point State}
    {result : ReplayResult} (stepping : performance.Stepping steps point)
    (shown : ∀ step ∈ steps, step.IsShown)
    (returned : performance.run.ending = .returned result) :
    ∃ commands built, performance.CarriesOut steps point commands built ∧
      performance.Stepping [] built := by
  induction steps generalizing point with
  | nil => exact ⟨[], point, .nil, stepping⟩
  | cons step steps induction =>
      obtain ⟨here, later⟩ := List.forall_mem_cons.mp shown
      have reached := stepping.reaches
      rw [executeSteps, Session.bind_assoc] at reached
      obtain ⟨events, panes, state, executed⟩ :=
        reached.exists_returned returned
      obtain ⟨command, sent, sends⟩ := sends_of_run_executeStep here executed
      obtain ⟨commands, built, carries, complete⟩ :=
        induction (stepping.step executed) later
      exact ⟨command :: commands, built, .cons executed sent sends carries,
        complete⟩

/-- A run that returns has acquired a window. -/
theorem exists_acquires {result : ReplayResult}
    (returned : performance.run.ending = .returned result) :
    ∃ events initial state, performance.Acquires events initial state := by
  rw [run, runPart, Emission.replay_eq] at returned
  split at returned
  · cases returned
  · next hasInitial =>
    split at returned
    · cases returned
    · next mode isMode =>
      obtain ⟨events, initial, state, acquired⟩ :=
        Session.exists_of_returned_bind returned
      exact ⟨events, initial, state, hasInitial, mode, isMode, acquired⟩

theorem AcquiringCall.not_arranges {request : ReplayRequest} {path : String}
    {site : CallSite} (call : AcquiringCall request path site) :
    ¬ site.command.Arranges := by
  cases call <;> simp [Command.Arranges, listingCall]

/-- Nothing is arranged while a window is acquired. -/
theorem Acquires.arrangementsOf_eq_nil {events : List Event}
    {initial : String} {state : State}
    (acquires : performance.Acquires events initial state) :
    arrangementsOf events = [] := by
  obtain ⟨mode, _, acquired⟩ := acquires.acquired
  refine PaneLayout.arrangementsOf_eq_nil fun command answer member => ?_
  have called := ((orderly_acquire performance.request
    performance.emission.summary.initialPaneId mode).mem_events
      performance.server performance.consent performance.start).1
        command answer
  rw [runPart] at acquired
  rw [acquired] at called
  obtain ⟨site, call, rfl⟩ := called member
  exact AcquiringCall.not_arranges call

/-- What an emission shows is what a run of it that returns sends.  Once a
window is acquired, the steps are carried out in order, none of them left out or
repeated, and until the terminals are configured the commands that arrange panes
are the shown ones, with the real panes and sizes. -/
theorem returned_sends_shown {plan : Plan} {result : ReplayResult}
    (emitted : plan.emit = .ok performance.emission)
    (returned : performance.run.ending = .returned result) :
    ∃ events initial state commands built,
      performance.Acquires events initial state ∧
      performance.CarriesOut performance.emission.steps
        ⟨events ++ [.noted performance.emission.summary.initialPaneId initial],
          PaneMap.empty.register performance.emission.summary.initialPaneId
            initial, state⟩
        commands built ∧
      performance.Reaches built
        (conclude performance.emission performance.request built.panes) ∧
      arrangementsOf built.events = commands := by
  obtain ⟨events, initial, state, acquires⟩ := exists_acquires returned
  obtain ⟨commands, built, carries, complete⟩ :=
    (Stepping.acquired acquires).exists_carriesOut
      (Plan.emit_areShown emitted) returned
  refine ⟨events, initial, state, commands, built, acquires, carries,
    complete.reaches, ?_⟩
  rw [carries.arrangementsOf_eq, arrangementsOf_append,
    acquires.arrangementsOf_eq_nil]
  rfl

/-- The commands that divide a new window with a size and select its first
pane. -/
def commandsWith (size : String) : List Command := [
  ["new-window", "-P", "-F", paneIdFormat],
  Command.listing,
  sizeQuery .horizontal "%1",
  Command.dividing .horizontal "%1" "-l" size,
  Command.listing,
  ["select-pane", "-t", "%1"],
  ["select-pane", "-t", "%1"]]

theorem sends_shown_fixedBesideRest :
    ∃ prepared,
      Prepared.ofValue "local" Prepared.fixedBesideRest = .ok prepared ∧
      ∃ start commands built,
        (prepared.performance "100" false).CarriesOut prepared.emission.steps
          start commands built ∧
        arrangementsOf built.events = commands := by
  have evaluated :
      (Prepared.ofValue "local" Prepared.fixedBesideRest).toOption.bind
        (fun prepared =>
          Prepared.returned? (prepared.performance "100" false)) =
        some (⟨2, "root.0"⟩, commandsWith "30") := by
    decide +kernel
  obtain ⟨prepared, accepted, ending, _⟩ := Prepared.exists_returned evaluated
  obtain ⟨_, _, _, commands, built, _, carries, _, sent⟩ :=
    returned_sends_shown (Prepared.stages_ofValue accepted).2.2 ending
  exact ⟨prepared, accepted, _, commands, built, carries, sent⟩

/-- A dry run may leave a size open although it could read the size of the
pane. -/
theorem sends_open_size :
    ∃ prepared,
      Prepared.ofValue "local" Prepared.fixedBesideRest = .ok prepared ∧
      (prepared.performance "10" true).run.ending =
        .returned ⟨2, "root.0"⟩ ∧
      paneCells "10" = .ok (some 10) ∧
      (prepared.performance "10" true).run.commands =
        commandsWith dynamicSizePlaceholder := by
  have evaluated :
      (Prepared.ofValue "local" Prepared.fixedBesideRest).toOption.bind
        (fun prepared =>
          Prepared.returned? (prepared.performance "10" true)) =
        some (⟨2, "root.0"⟩, commandsWith dynamicSizePlaceholder) := by
    decide +kernel
  obtain ⟨prepared, accepted, ending, commands⟩ :=
    Prepared.exists_returned evaluated
  exact ⟨prepared, accepted, ending, by decide, commands⟩

end Performance

end Replay

end PaneLayout
