import PaneLayout.Proofs.PaneMap
import PaneLayout.Proofs.Replay.Size
import PaneLayout.Proofs.Replay.Window

/-!
# What a step comes to

However a server answers, a step ends in one of three ways.  It is carried out
completely.  Or it is rejected for what it says itself, and then it has sent
nothing but queries.  Or the server disrupts it: a command fails, or a division
makes no pane that can be found.
-/

namespace PaneLayout

/-- The command divides a pane. -/
def Command.DividesPane (command : Command) : Prop :=
  command.head? = some "split-window"

instance (command : Command) : Decidable command.DividesPane :=
  inferInstanceAs (Decidable (command.head? = some "split-window"))

/-- The commands among some events that divide a pane. -/
def divisionsOf (events : List Event) : List Command :=
  (commandsOf events).filter fun command => decide command.DividesPane

theorem divisionsOf_append (first later : List Event) :
    divisionsOf (first ++ later) = divisionsOf first ++ divisionsOf later := by
  rw [divisionsOf, commandsOf_append, List.filter_append]
  rfl

theorem divisionsOf_eq_nil {events : List Event}
    (quiet : ∀ command ∈ commandsOf events,
      command.head? ≠ some "split-window") :
    divisionsOf events = [] := by
  rw [divisionsOf, List.filter_eq_nil_iff]
  exact fun command member divides =>
    quiet command member (of_decide_eq_true divides)

/-- The event is a question for the size of the pane. -/
def Event.AsksSize (pane : String) (event : Event) : Prop :=
  ∃ orientation answer,
    event = .sent (Replay.sizeQuery orientation pane) answer

theorem Event.AsksSize.isQuery {pane : String} {event : Event}
    (asks : event.AsksSize pane) : event.IsQuery := by
  obtain ⟨orientation, answer, rfl⟩ := asks
  exact .inl rfl

/-- A listing and questions for a size are queries. -/
theorem isQuery_of_asked {pane : String} {queries : List Event}
    (listed : Answer) (quiet : ∀ event ∈ queries, event.AsksSize pane) :
    ∀ event ∈ .sent .listing listed :: queries, event.IsQuery :=
  List.forall_mem_cons.mpr
    ⟨.inr rfl, fun event member => (quiet event member).isQuery⟩

/-- Queries divide nothing. -/
theorem divisionsOf_queries {events : List Event}
    (queries : ∀ event ∈ events, event.IsQuery) : divisionsOf events = [] := by
  refine divisionsOf_eq_nil fun command member => ?_
  obtain ⟨event, isEvent, isCommand⟩ := List.mem_filterMap.mp member
  cases event with
  | sent known answer =>
      cases isCommand
      rcases queries _ isEvent with query | query <;> rw [query] <;> decide
  | _ => cases isCommand

/-- The percentage that counts for a split step. -/
inductive SplitStep.Percentage (step : SplitStep) : Int → Prop where
  | sizing {percentage : Int} : step.sizing = some (.percent percentage) →
      Percentage step percentage
  | alone {percentage : Int} : step.sizing = none →
      step.percentage = some percentage → Percentage step percentage

/-- The command divides a pane the way that a split step says. -/
inductive SplitStep.Requests (step : SplitStep) (pane : String) :
    Command → Prop where
  | percent {orientation : Orientation} {percentage clamped : Int} :
      step.orientation = some orientation →
      step.Percentage percentage →
      (Number.whole percentage).clampPercentage = .ok clamped →
      Requests step pane (.dividing orientation pane "-p" (toString clamped))
  | cells {orientation : Orientation} {sizing : DynamicSizing}
      {size : String} :
      step.orientation = some orientation →
      step.sizing = some (.dynamic sizing) →
      Requests step pane (.dividing orientation pane "-l" size)

theorem SplitStep.Requests.dividesPane {step : SplitStep} {pane : String}
    {command : Command} (divides : step.Requests pane command) :
    command.DividesPane := by
  cases divides <;> rfl

/-- A listing and questions for a size may come before a division. -/
theorem divisionsOf_division {step : SplitStep} {pane : String}
    {command : Command} (divides : step.Requests pane command)
    {queries : List Event} (quiet : ∀ event ∈ queries, event.AsksSize pane)
    (listed answer : Answer) (later : List Event) :
    divisionsOf (.sent .listing listed ::
        (queries ++ .sent command answer :: later)) =
      command :: divisionsOf later := by
  have division : divisionsOf [.sent command answer] = [command] :=
    List.filter_cons_of_pos (decide_eq_true divides.dividesPane)
  rw [← List.cons_append, divisionsOf_append,
    divisionsOf_queries (isQuery_of_asked listed quiet),
    ← List.singleton_append, divisionsOf_append, division]
  rfl

/-- The id under which a split step records the pane that it makes. -/
def SplitStep.createdId? (step : SplitStep) : Option String :=
  step.createdPaneId.filter (· ≠ "")

/-- What a split step notes about the pane that it made, and what is recorded
then. -/
def SplitStep.recording (step : SplitStep) (created : String)
    (panes : PaneMap) : List Event × PaneMap :=
  match step.createdId? with
  | none => ([], panes)
  | some id => ([.noted id created], panes.register id created)

theorem SplitStep.divisionsOf_recording (step : SplitStep) (created : String)
    (panes : PaneMap) : divisionsOf (step.recording created panes).1 = [] := by
  unfold recording
  split <;> rfl

namespace Replay

/-- These events carry out a step completely.  The first map is what is recorded
before the step, and the last one what is recorded after it.  A division lists
the panes, divides its target, and lists the panes again to find the one that it
made. -/
inductive Completes (panes : PaneMap) :
    Step → Option String → List Event → PaneMap → Prop where
  | split {step : SplitStep} {target pane listed output relisted created :
        String} {queries : List Event} {command : Command} :
      step.targetPaneId = some target →
      panes.lookup target = some pane →
      (∀ event ∈ queries, event.AsksSize pane) →
      step.Requests pane command →
      created ∈ listedPanes relisted → created ∉ listedPanes listed →
      Completes panes (.split step) (some created)
        (.sent .listing (.ok listed) :: (queries ++
          .sent command (.ok output) :: .sent .listing (.ok relisted) ::
            (step.recording created (panes.register target pane)).1))
        (step.recording created (panes.register target pane)).2
  | focus {step : FocusStep} {target pane output : String} :
      step.targetPaneId = some target →
      panes.lookup target = some pane →
      Completes panes (.focus step) none
        [.sent ["select-pane", "-t", pane] (.ok output)]
        (panes.register target pane)

/-- Why no pane is found for a target. -/
inductive Untargeted (role : TargetRole) (stepId : String) (panes : PaneMap) :
    Option String → ReplayError → Prop where
  | missing : Untargeted role stepId panes none (.missingTarget role stepId)
  | empty : Untargeted role stepId panes (some "")
      (.missingTarget role stepId)
  | unknown {target : String} : target ≠ "" → panes.lookup target = none →
      Untargeted role stepId panes (some target)
        (.unknownTarget role target stepId)

/-- Why there is no command for a split step, after what was answered. -/
inductive Uncommanded (request : ReplayRequest) (step : SplitStep)
    (pane : String) (events : List Event) : ReplayError → Prop where
  | orientation : step.orientation = none →
      Uncommanded request step pane events (.missingOrientation step.id)
  | percentage : step.sizing = none → step.percentage = none →
      Uncommanded request step pane events (.missingPercentage step.id)
  /-- The percentage cannot be computed with. -/
  | range {percentage : Int} {cause : Fault} : step.Percentage percentage →
      (Number.whole percentage).clampPercentage = .error cause →
      Uncommanded request step pane events (.fault cause)
  | size {orientation : Orientation} {sizing : DynamicSizing}
      {output : String} {error : ReplayError} :
      step.orientation = some orientation →
      step.sizing = some (.dynamic sizing) →
      .sent (sizeQuery orientation pane) (.ok output) ∈ events →
      sizeText request step.id sizing output = .error error →
      Uncommanded request step pane events error

theorem Uncommanded.mono {request : ReplayRequest} {step : SplitStep}
    {pane : String} {events moreEvents : List Event} {error : ReplayError}
    (uncommanded : Uncommanded request step pane events error)
    (more : events ⊆ moreEvents) :
    Uncommanded request step pane moreEvents error := by
  cases uncommanded with
  | orientation unoriented => exact .orientation unoriented
  | percentage unsized unmeasured => exact .percentage unsized unmeasured
  | range isPercentage beyond => exact .range isPercentage beyond
  | size oriented isDynamic asked unsized =>
      exact .size oriented isDynamic (more asked) unsized

/-- Why a step is rejected, after what was answered. -/
inductive Rejection (request : ReplayRequest) (panes : PaneMap)
    (events : List Event) : Step → ReplayError → Prop where
  | splitTarget {step : SplitStep} {error : ReplayError} :
      Untargeted .split step.id panes step.targetPaneId error →
      Rejection request panes events (.split step) error
  | focusTarget {step : FocusStep} {error : ReplayError} :
      Untargeted .focus step.id panes step.targetPaneId error →
      Rejection request panes events (.focus step) error
  | command {step : SplitStep} {target pane : String} {error : ReplayError} :
      step.targetPaneId = some target →
      panes.lookup target = some pane →
      Uncommanded request step pane events error →
      Rejection request panes events (.split step) error
  | kind {kind : String} {id : Option String} :
      Rejection request panes events (.unsupported kind id)
        (.unsupportedStep kind id)

/-- A command failed, or it made no pane. -/
inductive IsDisruption : ReplayError → Prop where
  | command (message : String) (details : Entries Value) (error : CallError)
      (path : String) : IsDisruption (.command message details error path)
  | noNewPane (before listed : List String) (stepId : String) :
      IsDisruption (.noNewPane before listed stepId)

/-- The divisions that a step may have sent when it is disrupted. -/
inductive Attempts : Step → List Command → Prop where
  | none {step : Step} : Attempts step []
  | split {step : SplitStep} {pane : String} {command : Command} :
      step.Requests pane command → Attempts (.split step) [command]

/-- How a step ends. -/
inductive Outcome (request : ReplayRequest) (panes : PaneMap) (step : Step) :
    List Event → Ending ReplayError PaneMap → Prop where
  | completed {made : Option String} {events : List Event}
      {built : PaneMap} : Completes panes step made events built →
      Outcome request panes step events (.returned built)
  | rejected {events : List Event} {error : ReplayError} :
      (∀ event ∈ events, event.IsQuery) →
      Rejection request panes events step error →
      Outcome request panes step events (.failed error)
  | disrupted {events : List Event} {error : ReplayError} :
      IsDisruption error → Attempts step (divisionsOf events) →
      Outcome request panes step events (.failed error)

/-! ### The parts of a step -/

/-- A target is looked for without any command. -/
theorem targetPane_cases (role : TargetRole) (stepId : String)
    (target : Option String) (panes : PaneMap) :
    (∃ error, Untargeted role stepId panes target error ∧
      targetPane role stepId target panes = .done (.error error)) ∨
    ∃ id pane, target = some id ∧ panes.lookup id = some pane ∧
      targetPane role stepId target panes =
        .done (.ok (pane, panes.register id pane)) := by
  unfold targetPane
  split
  · exact .inl ⟨_, .missing, rfl⟩
  · exact .inl ⟨_, .empty, rfl⟩
  · next id nonempty =>
    cases found : panes.lookup id with
    | none =>
        rw [PaneMap.resolve_of_unknown found]
        exact .inl ⟨_, .unknown nonempty found, rfl⟩
    | some pane =>
        rw [PaneMap.resolve_of_found found]
        exact .inr ⟨id, pane, rfl, found, rfl⟩

/-- What a split step records once its pane is divided: the pane that is listed
and was not listed before. -/
def recordCreated (step : SplitStep) (panes : PaneMap)
    (before listed : List String) : Part PaneMap :=
  match listed.find? fun pane => !before.contains pane with
  | none => throw (.noNewPane before listed step.id)
  | some created =>
      match step.createdPaneId with
      | none | some "" => return panes
      | some virtualId => register panes virtualId created

/-- How the choice of a command ends. -/
inductive Chosen (request : ReplayRequest) (step : SplitStep)
    (pane : String) : List Event → Ending ReplayError Command → Prop where
  | command {events : List Event} {command : Command} :
      (∀ event ∈ events, event.AsksSize pane) → step.Requests pane command →
      Chosen request step pane events (.returned command)
  | rejected {events : List Event} {error : ReplayError} :
      (∀ event ∈ events, event.AsksSize pane) →
      Uncommanded request step pane events error →
      Chosen request step pane events (.failed error)
  | disrupted {events : List Event} {error : ReplayError} :
      (∀ event ∈ events, event.AsksSize pane) → IsDisruption error →
      Chosen request step pane events (.failed error)

section Run

variable {State : Type} (server : Server State)
  (consent : List String → Option Value) (request : ReplayRequest)
  (panes : PaneMap) (state : State)

/-- A percentage needs no query. -/
theorem chosen_percent {step : SplitStep} {percentage : Int}
    {orientation : Orientation}
    (oriented : step.orientation = some orientation)
    (isPercentage : step.Percentage percentage) (pane : String) :
    let part : Part Command := do
      let clamped ← Session.ofExcept
        (ofFault (Number.whole percentage).clampPercentage)
      return .dividing orientation pane "-p" (toString clamped)
    let run := part.run server consent state
    Chosen request step pane run.events run.ending := by
  intro part run
  cases clamps : (Number.whole percentage).clampPercentage with
  | ok clamped =>
      have ran : run = ⟨[], .returned
          (.dividing orientation pane "-p" (toString clamped)), state⟩ := by
        dsimp only [run, part]
        rw [clamps]
        rfl
      rw [ran]
      exact .command nofun (.percent oriented isPercentage clamps)
  | error cause =>
      have ran : run = ⟨[], .failed (.fault cause), state⟩ := by
        dsimp only [run, part]
        rw [clamps]
        rfl
      rw [ran]
      exact .rejected nofun (.range isPercentage clamps)

/-- A number of cells needs one query. -/
theorem chosen_cells {step : SplitStep} {orientation : Orientation}
    {sizing : DynamicSizing} (oriented : step.orientation = some orientation)
    (isDynamic : step.sizing = some (.dynamic sizing)) (pane : String) :
    let part : Part Command := do
      let size ← dynamicSize request step.id orientation sizing pane
      return .dividing orientation pane "-l" size
    let run := part.run server consent state
    Chosen request step pane run.events run.ending := by
  intro part run
  have query : ∀ answer,
      (Event.sent (sizeQuery orientation pane) answer).AsksSize pane :=
    fun answer => ⟨orientation, answer, rfl⟩
  have asks : part = perform (sizeQuery orientation pane)
      "Failed to resolve tmux pane size" step.id [] >>= fun output =>
        Session.ofExcept (sizeText request step.id sizing output) >>=
          fun size => pure (.dividing orientation pane "-l" size) := by
    dsimp only [part]
    rw [dynamicSize_eq, Session.bind_assoc]
  dsimp only [run]
  rw [asks]
  rcases answered : server.step (sizeQuery orientation pane) state with
    ⟨error | output, next⟩
  · rw [Session.run_bind_of_failed
      (run_perform_error consent answered _ _ _)]
    exact .disrupted (List.forall_mem_singleton.mpr (query _))
      (.command _ _ _ _)
  · rw [Session.run_bind_of_returned (run_perform_ok consent answered _ _ _)]
    cases written : sizeText request step.id sizing output with
    | ok size =>
        exact .command (List.forall_mem_singleton.mpr (query _))
          (.cells oriented isDynamic)
    | error error =>
        exact .rejected (List.forall_mem_singleton.mpr (query _))
          (.size oriented isDynamic (List.mem_singleton.mpr rfl) written)

theorem chosen_splitCommand (step : SplitStep) (pane : String) :
    let run := (splitCommand request step pane).run server consent state
    Chosen request step pane run.events run.ending := by
  unfold splitCommand
  split
  · next unoriented =>
    exact .rejected nofun (.orientation unoriented)
  · next orientation oriented =>
    dsimp only
    split
    · next isDynamic =>
      exact chosen_cells server consent request state oriented isDynamic pane
    · next isPercent =>
      exact chosen_percent server consent request state oriented
        (.sizing isPercent) pane
    · next unsized isPercent =>
      exact chosen_percent server consent request state oriented
        (.alone unsized isPercent) pane
    · next unsized unmeasured =>
      exact .rejected nofun (.percentage unsized unmeasured)

/-- What is looked for after a division is a pane that was not listed
before. -/
theorem run_recordCreated (step : SplitStep) {before listed : List String}
    {created : String}
    (found : (listed.find? fun pane => !before.contains pane) =
      some created) :
    (recordCreated step panes before listed).run server consent state =
      ⟨(step.recording created panes).1,
        .returned (step.recording created panes).2, state⟩ := by
  unfold recordCreated SplitStep.recording SplitStep.createdId?
  rw [found]
  dsimp only
  split
  · next uncreated =>
    rw [uncreated]
    rfl
  · next uncreated =>
    rw [uncreated]
    rfl
  · next id nonempty creates =>
    have named : (some id).filter (· ≠ "") = some id :=
      Option.filter_some_pos (decide_eq_true nonempty)
    rw [creates, named]
    rfl

theorem splitPane_of_aimed {step : SplitStep} {target pane : String}
    (succeeds : targetPane .split step.id step.targetPaneId panes =
      .done (.ok (pane, panes.register target pane))) :
    splitPane request step panes =
      listPanes step.id >>= fun before =>
        splitCommand request step pane >>= fun command =>
          perform command ("Failed to execute split step " ++ step.id) step.id
            (commandDetails command) >>= fun _ =>
              listPanes step.id >>= fun listed =>
                recordCreated step (panes.register target pane) before
                  listed := by
  unfold splitPane
  rw [succeeds]
  rfl

/-- Once the command of a split step is chosen, the step is carried out, or the
server disrupts it. -/
theorem outcome_division {step : SplitStep} {target pane listed : String}
    {queries : List Event} {command : Command}
    (aimed : step.targetPaneId = some target)
    (found : panes.lookup target = some pane)
    (quiet : ∀ event ∈ queries, event.AsksSize pane)
    (divides : step.Requests pane command) :
    let part := perform command ("Failed to execute split step " ++ step.id)
      step.id (commandDetails command) >>= fun _ =>
        listPanes step.id >>= fun relisted =>
          recordCreated step (panes.register target pane)
            (listedPanes listed) relisted
    let run := part.run server consent state
    Outcome request panes (.split step)
      (.sent .listing (.ok listed) :: (queries ++ run.events)) run.ending := by
  have attempts : ∀ answer later, divisionsOf later = [] →
      Attempts (.split step)
        (divisionsOf (.sent .listing (.ok listed) ::
          (queries ++ .sent command answer :: later))) := by
    intro answer later none
    rw [divisionsOf_division divides quiet, none]
    exact .split divides
  dsimp only
  rcases divided : server.step command state with ⟨error | output, next⟩
  · rw [Session.run_bind_of_failed (run_perform_error consent divided _ _ _)]
    exact .disrupted (.command _ _ _ _) (attempts _ _ rfl)
  · rw [Session.run_bind_of_returned (run_perform_ok consent divided _ _ _)]
    rcases answered : server.step .listing next with ⟨error | relisted, last⟩
    · rw [Session.run_bind_of_failed
        (run_listPanes_error consent step.id answered)]
      exact .disrupted (.command _ _ _ _) (attempts _ _ rfl)
    · rw [Session.run_bind_of_returned
        (run_listPanes_ok consent step.id answered)]
      cases isFound : (listedPanes relisted).find? fun pane =>
          !(listedPanes listed).contains pane with
      | none =>
          rw [recordCreated, isFound]
          exact .disrupted (.noNewPane _ _ _) (attempts _ _ rfl)
      | some created =>
          rw [run_recordCreated server consent _ last step isFound]
          have unlisted := List.find?_some isFound
          exact .completed (.split aimed found quiet divides
            (List.mem_of_find?_eq_some isFound) (by simpa using unlisted))

theorem outcome_splitPane (step : SplitStep) :
    let run := (splitPane request step panes).run server consent state
    Outcome request panes (.split step) run.events run.ending := by
  dsimp only
  rcases targetPane_cases .split step.id step.targetPaneId panes with
    ⟨error, untargeted, fails⟩ | ⟨target, pane, aimed, found, succeeds⟩
  · unfold splitPane
    rw [fails]
    exact .rejected nofun (.splitTarget untargeted)
  · rw [splitPane_of_aimed request panes succeeds]
    rcases answered : server.step .listing state with ⟨error | listed, next⟩
    · rw [Session.run_bind_of_failed
        (run_listPanes_error consent step.id answered)]
      exact .disrupted (.command _ _ _ _) .none
    · rw [Session.run_bind_of_returned
        (run_listPanes_ok consent step.id answered), Session.run_bind]
      have chosen := chosen_splitCommand server consent request next step pane
      cases ran : (splitCommand request step pane).run server consent next with
      | mk queries ending last =>
          rw [ran] at chosen
          dsimp only at chosen
          cases chosen with
          | command quiet divides =>
              rw [Run.andThen_of_returned rfl]
              exact outcome_division server consent request panes last aimed
                found quiet divides
          | rejected quiet uncommanded =>
              rw [Run.andThen_of_failed rfl]
              exact .rejected (isQuery_of_asked _ quiet) (.command aimed found
                (uncommanded.mono fun _ => List.mem_cons_of_mem _))
          | disrupted quiet disruption =>
              rw [Run.andThen_of_failed rfl]
              have none := divisionsOf_queries
                (isQuery_of_asked (.ok listed) quiet)
              exact .disrupted disruption (none.symm ▸ .none)

theorem outcome_focusPane (step : FocusStep) :
    let run := (focusPane step panes).run server consent state
    Outcome request panes (.focus step) run.events run.ending := by
  dsimp only
  unfold focusPane
  rcases targetPane_cases .focus step.id step.targetPaneId panes with
    ⟨error, untargeted, fails⟩ | ⟨target, pane, aimed, found, succeeds⟩
  · rw [fails]
    exact .rejected nofun (.focusTarget untargeted)
  · rw [succeeds, Session.ok_bind]
    dsimp only
    rcases answered : server.step ["select-pane", "-t", pane] state with
      ⟨error | output, next⟩
    · rw [Session.run_bind_of_failed
        (run_perform_error consent answered _ _ _)]
      exact .disrupted (.command _ _ _ _) .none
    · rw [Session.run_bind_of_returned (run_perform_ok consent answered _ _ _)]
      exact .completed (.focus aimed found)

/-- Every step is carried out, or rejected, or disrupted. -/
theorem outcome_executeStep (step : Step) :
    let run := (executeStep request panes step).run server consent state
    Outcome request panes step run.events run.ending := by
  cases step with
  | split step =>
      exact outcome_splitPane server consent request panes state step
  | focus step =>
      exact outcome_focusPane server consent request panes state step
  | unsupported kind id => exact .rejected nofun .kind

variable {server consent request panes state}

theorem outcome_of_run {step : Step} {events : List Event}
    {ending : Ending ReplayError PaneMap} {next : State}
    (ran : (executeStep request panes step).run server consent state =
      ⟨events, ending, next⟩) :
    Outcome request panes step events ending := by
  have outcome := outcome_executeStep server consent request panes state step
  rwa [ran] at outcome

end Run

end Replay

end PaneLayout
