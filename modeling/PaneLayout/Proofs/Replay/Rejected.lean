import PaneLayout.Proofs.PaneMap.Lookup
import PaneLayout.Proofs.Replay.Blame
import PaneLayout.Proofs.Replay.Outcome
import PaneLayout.Proofs.Replay.Own
import PaneLayout.Proofs.Replay.Shown

/-!
# Rejected steps

A replay has no way back, so a step that cannot be carried out has to be noticed
before it changes anything.  When a step is rejected, all steps before it are
carried out completely, the step itself has only asked the server for something,
and nothing happens any more.
-/

namespace PaneLayout

namespace Step

def split? : Step → Option SplitStep
  | .split step => some step
  | _ => none

/-- The id under which a step records the pane that it makes. -/
def createdId? : Step → Option String
  | .split step => step.createdId?
  | _ => none

end Step

namespace Replay

/-! ### The divisions of the steps -/

/-- Each of the divisions is that of one split step.  They come in the order of
the steps, and no split step before the last one is left out. -/
def DividesInOrder (steps : List Step) (divisions : List Command) : Prop :=
  ∃ attempted, attempted <+: steps.filterMap Step.split? ∧
    List.Forall₂ (fun step command => ∃ pane, step.Requests pane command)
      attempted divisions

section Divisions

variable {steps : List Step} {divisions : List Command}

theorem dividesInOrder_nil : DividesInOrder steps [] :=
  ⟨[], List.nil_prefix, .nil⟩

theorem DividesInOrder.split {step : SplitStep} {pane : String}
    {command : Command} (divides : step.Requests pane command)
    (rest : DividesInOrder steps divisions) :
    DividesInOrder (.split step :: steps) (command :: divisions) := by
  obtain ⟨attempted, isPrefix, divided⟩ := rest
  exact ⟨step :: attempted, List.cons_prefix_cons.mpr ⟨rfl, isPrefix⟩,
    .cons ⟨pane, divides⟩ divided⟩

theorem Attempts.dividesInOrder {step : Step}
    (attempts : Attempts step divisions) :
    DividesInOrder (step :: steps) divisions := by
  cases attempts with
  | none => exact dividesInOrder_nil
  | split divides => exact dividesInOrder_nil.split divides

/-- A step that is carried out adds its own division, if it has one. -/
theorem Completes.dividesInOrder {panes built : PaneMap} {step : Step}
    {made : Option String} {events : List Event}
    (completes : Completes panes step made events built)
    (rest : DividesInOrder steps divisions) :
    DividesInOrder (step :: steps) (divisionsOf events ++ divisions) := by
  cases completes with
  | @split step target pane _ _ relisted created _ _ _ _ quiet divides _ _ =>
      have quietly : divisionsOf (.sent .listing (.ok relisted) ::
          (step.recording created (panes.register target pane)).1) = [] :=
        step.divisionsOf_recording created _
      rw [divisionsOf_division divides quiet, quietly]
      exact rest.split divides
  | focus => exact rest

variable {State : Type} (server : Server State)
  (consent : List String → Option Value) (request : ReplayRequest)

theorem dividesInOrder_executeSteps (steps : List Step) (panes : PaneMap)
    (state : State) :
    DividesInOrder steps
      (divisionsOf
        ((executeSteps request panes steps).run server consent state).events) :=
  by
  induction steps generalizing panes state with
  | nil => exact dividesInOrder_nil
  | cons step steps induction =>
      rw [executeSteps, Session.run_bind]
      cases ran : (executeStep request panes step).run server consent state with
      | mk events ending next =>
          cases outcome_of_run ran with
          | @completed _ _ built completes =>
              rw [Run.andThen_of_returned rfl, divisionsOf_append]
              exact completes.dividesInOrder (induction built next)
          | rejected quiet _ =>
              rw [Run.andThen_of_failed rfl, divisionsOf_queries quiet]
              exact dividesInOrder_nil
          | disrupted _ attempts =>
              rw [Run.andThen_of_failed rfl]
              exact attempts.dividesInOrder

/-- A part whose calls divide nothing has no divisions. -/
theorem Orderly.divisionsOf_eq_nil {α : Type} {part : Part α}
    {asks : List String → Prop} (orderly : Orderly dividesNothing asks part)
    (state : State) :
    divisionsOf (part.run server consent state).events = [] :=
  PaneLayout.divisionsOf_eq_nil (orderly.head?_ne server consent state)

/-- A run that goes on has its own divisions and those of what follows. -/
theorem divisionsOf_andThen {ε α β : Type} (run : Run ε α State)
    (continue_ : α → State → Run ε β State) :
    divisionsOf (run.andThen continue_).events = divisionsOf run.events ∨
      ∃ value, divisionsOf (run.andThen continue_).events =
        divisionsOf run.events ++
          divisionsOf (continue_ value run.state).events := by
  cases ending : run.ending with
  | returned value =>
      rw [Run.andThen_of_returned ending]
      exact .inr ⟨value, divisionsOf_append _ _⟩
  | failed error =>
      rw [Run.andThen_of_failed ending]
      exact .inl rfl
  | unanswered =>
      rw [Run.andThen_of_unanswered ending]
      exact .inl rfl

theorem dividesInOrder_afterAcquisition (emission : Emission)
    (initial : String) (state : State) :
    DividesInOrder emission.steps
      (divisionsOf ((afterAcquisition emission request initial).run server
        consent state).events) := by
  have start := dividesInOrder_executeSteps server consent request
    emission.steps
    (PaneMap.empty.register emission.summary.initialPaneId initial) state
  rw [afterAcquisition_eq, Session.run_note, Session.run_bind]
  change DividesInOrder _ (divisionsOf (Run.andThen _ _).events)
  rcases divisionsOf_andThen _ _ with same | ⟨built, appended⟩
  · rw [same]
    exact start
  · rw [appended, (orderly_conclude emission request built).divisionsOf_eq_nil,
      List.append_nil]
    exact start

/-- Only the steps divide panes. -/
theorem dividesInOrder_replay (emission : Emission) (state : State) :
    DividesInOrder emission.steps
      (divisionsOf
        ((emission.replay request).run server consent state).events) := by
  rw [Emission.replay_eq]
  split
  · exact dividesInOrder_nil
  · split
    · exact dividesInOrder_nil
    · next mode _ =>
      have quiet := ((orderly_acquire request emission.summary.initialPaneId
        mode).mono (fun _ => AcquiringCall.dividesNothing)
          fun _ => id).divisionsOf_eq_nil server consent state
      rw [Session.run_bind]
      rcases divisionsOf_andThen _ _ with same | ⟨initial, appended⟩
      · rw [same, quiet]
        exact dividesInOrder_nil
      · rw [appended, quiet, List.nil_append]
        exact dividesInOrder_afterAcquisition server consent request emission
          initial _

end Divisions

/-! ### What is recorded, and stays recorded -/

/-- Finding a target leaves what is recorded. -/
theorem get?_register_target {panes : PaneMap} {target pane id realId : String}
    (found : panes.lookup target = some pane)
    (recorded : panes.get? id = some realId) :
    (panes.register target pane).get? id = some realId := by
  have resolved : (panes.after (.resolve target)).get? id = some realId :=
    PaneMap.get?_after recorded nofun
  rwa [PaneMap.after, PaneMap.resolve_of_found found] at resolved

/-- A step that is carried out leaves what is recorded for other ids. -/
theorem Completes.get?_of_other {panes built : PaneMap} {step : Step}
    {made : Option String} {events : List Event}
    (completes : Completes panes step made events built) {id pane : String}
    (other : step.createdId? ≠ some id) (recorded : panes.get? id = some pane) :
    built.get? id = some pane := by
  cases completes with
  | @split step _ _ _ _ _ created _ _ _ found _ _ _ _ =>
      have kept := get?_register_target found recorded
      unfold SplitStep.recording
      split
      · exact kept
      · next known isCreated =>
        have different : known ≠ id := by
          rintro rfl
          exact other isCreated
        rw [PaneMap.get?_register_of_ne different]
        exact kept
  | focus _ found => exact get?_register_target found recorded

/-- The pane that a split step made is recorded for the id of the step. -/
theorem Completes.get?_created {panes built : PaneMap} {step : Step}
    {created : String} {events : List Event}
    (completes : Completes panes step (some created) events built)
    {id : String} (creates : step.createdId? = some id) :
    built.get? id = some created := by
  cases completes with
  | @split step _ _ _ _ _ _ _ _ _ _ _ _ isListed _ =>
      have nonblank : created ≠ "" :=
        of_decide_eq_true (List.mem_filter.mp isListed).2
      have isCreated : step.createdId? = some id := creates
      rw [SplitStep.recording, isCreated]
      exact (PaneMap.get?_register nonblank).trans (if_pos rfl)

/-- A split step that is carried out makes a pane.  The pane is noted for the id
of the step. -/
theorem Completes.exists_created {panes built : PaneMap} {step : SplitStep}
    {made : Option String} {events : List Event}
    (completes : Completes panes (.split step) made events built) :
    ∃ created, made = some created ∧ Created events created ∧
      ∀ id, step.createdId? = some id → .noted id created ∈ events := by
  cases completes with
  | @split _ _ _ listed output relisted created queries command _ _ quiet
      divides isListed unlisted =>
      refine ⟨created, rfl, ⟨[], listed, queries, command, output, relisted, _,
        rfl, fun event member isListing => ?_, divides.dividesPane, isListed,
        unlisted⟩, fun id isCreated => ?_⟩
      · obtain ⟨_, _, rfl⟩ := quiet event member
        simp [Event.IsListing, sizeQuery] at isListing
      · rw [SplitStep.recording, isCreated]
        simp

/-! ### The steps that are carried out -/

namespace Performance

variable {State : Type}

/-- The points between the steps, with the steps that are carried out and the
pane that each of them made. -/
inductive Completed (performance : Performance State) :
    List (Step × Option String) → Point State → Prop where
  | acquired {events : List Event} {initial : String} {state : State} :
      performance.Acquires events initial state →
      Completed performance []
        ⟨events ++ [.noted performance.emission.summary.initialPaneId initial],
          PaneMap.empty.register performance.emission.summary.initialPaneId
            initial, state⟩
  | step {earlier : List (Step × Option String)} {point : Point State}
      {step : Step} {made : Option String} {events : List Event}
      {panes : PaneMap} {state : State} :
      Completed performance earlier point →
      performance.runPart (executeStep performance.request point.panes step)
        point.state = ⟨events, .returned panes, state⟩ →
      Completes point.panes step made events panes →
      Completed performance (earlier ++ [(step, made)])
        ⟨point.events ++ events, panes, state⟩

variable {performance : Performance State}

/-- A step that returns is carried out completely. -/
theorem exists_completes {panes built : PaneMap} {step : Step}
    {events : List Event} {state next : State}
    (returned : performance.runPart (executeStep performance.request panes step)
      state = ⟨events, .returned built, next⟩) :
    ∃ made, Completes panes step made events built := by
  cases outcome_of_run returned with
  | completed completes => exact ⟨_, completes⟩

/-- The steps before a point are carried out, in order and none left out. -/
theorem Stepping.exists_completed {later : List Step} {point : Point State}
    (stepping : performance.Stepping later point) :
    ∃ earlier, performance.Completed earlier point ∧
      performance.emission.steps = earlier.map Prod.fst ++ later := by
  induction stepping with
  | acquired acquires => exact ⟨[], .acquired acquires, rfl⟩
  | @step step steps point events panes state _ returned induction =>
      obtain ⟨earlier, completed, order⟩ := induction
      obtain ⟨made, completes⟩ := exists_completes returned
      refine ⟨earlier ++ [(step, made)], completed.step returned completes, ?_⟩
      rw [order, List.map_append, List.append_assoc]
      rfl

/-- A split step has made a pane, and it was noted for the id of the step. -/
theorem Completed.exists_created {earlier : List (Step × Option String)}
    {point : Point State} (completed : performance.Completed earlier point)
    {step : SplitStep} {made : Option String}
    (member : (.split step, made) ∈ earlier) :
    ∃ created, made = some created ∧ Created point.events created ∧
      ∀ id, step.createdId? = some id →
        .noted id created ∈ point.events := by
  induction completed with
  | acquired => cases member
  | @step earlier point _ _ events _ _ _ _ completes induction =>
      rcases List.mem_append.mp member with before | latest
      · obtain ⟨created, isMade, made, noted⟩ := induction before
        exact ⟨created, isMade, made.mono events,
          fun id creates => List.mem_append_left _ (noted id creates)⟩
      · cases List.mem_singleton.mp latest
        obtain ⟨created, isMade, made, noted⟩ := completes.exists_created
        exact ⟨created, isMade, made.after point.events,
          fun id creates => List.mem_append_right _ (noted id creates)⟩

/-- What a step recorded for its id stays recorded, unless a later step makes
another pane for it. -/
theorem Completed.get?_created {earlier : List (Step × Option String)}
    {point : Point State} (completed : performance.Completed earlier point)
    {before after : List (Step × Option String)} {step : Step}
    {created id : String}
    (parts : earlier = before ++ (step, some created) :: after)
    (creates : step.createdId? = some id)
    (last : ∀ other ∈ after, other.1.createdId? ≠ some id) :
    point.panes.get? id = some created := by
  induction completed generalizing after with
  | acquired => simp at parts
  | step _ _ completes induction =>
      rcases List.eq_nil_or_concat after with rfl | ⟨middle, entry, rfl⟩
      · obtain ⟨_, same⟩ := List.append_inj' parts rfl
        cases same
        exact completes.get?_created creates
      · rw [List.concat_eq_append, ← List.cons_append, ← List.append_assoc]
          at parts
        obtain ⟨rfl, same⟩ := List.append_inj' parts rfl
        cases same
        simp only [List.concat_eq_append, List.forall_mem_append,
          List.forall_mem_singleton] at last
        exact completes.get?_of_other last.2 (induction rfl last.1)

end Performance

/-! ### Whole runs -/

namespace Performance

variable {State : Type} (performance : Performance State)

/-- At a point the performance rejects a step, with some steps left after it. -/
structure Rejects (point : Point State) (step : Step) (later : List Step)
    (error : ReplayError) : Prop where
  reached : performance.Stepping (step :: later) point
  failed : (performance.runPart
    (executeStep performance.request point.panes step) point.state).ending =
      .failed error
  rejects : error.RejectsStep

/-- At a point the performance stops with an error.  The earlier steps are
carried out, each of them with the pane that it made.  One more step has only
sent queries, and nothing else happens. -/
structure StopsBefore (point : Point State)
    (earlier : List (Step × Option String)) (step : Step) (later : List Step)
    (queries : List Event) (error : ReplayError) : Prop where
  order : performance.emission.steps = earlier.map Prod.fst ++ step :: later
  completed : performance.Completed earlier point
  /-- Every split step has made a pane that was not listed before. -/
  made : ∀ split pane, (.split split, pane) ∈ earlier →
    ∃ created, pane = some created ∧ Created point.events created ∧
      ∀ id, split.createdId? = some id → .noted id created ∈ point.events
  /-- The pane is recorded for the id of its step, unless a later one of the
  steps has made another pane for it. -/
  recorded : ∀ before other created after id,
    earlier = before ++ (other, some created) :: after →
    other.createdId? = some id →
    (∀ entry ∈ after, entry.1.createdId? ≠ some id) →
    point.panes.get? id = some created
  reason : Rejection performance.request point.panes queries step error
  quiet : ∀ event ∈ queries, event.IsQuery
  run : performance.run.events = point.events ++ queries ∧
    performance.run.ending = .failed error

variable {performance}

/-- What fails at a point ends the run. -/
theorem Stepping.run_of_failed {step : Step} {later : List Step}
    {point : Point State} {events : List Event} {error : ReplayError}
    {state : State} (stepping : performance.Stepping (step :: later) point)
    (failed : performance.runPart
      (executeStep performance.request point.panes step) point.state =
        ⟨events, .failed error, state⟩) :
    performance.run = ⟨point.events ++ events, .failed error, state⟩ := by
  have reached := stepping.reaches
  dsimp only [Reaches, runPart] at reached failed
  rw [executeSteps, Session.bind_assoc, Session.run_bind_of_failed failed]
    at reached
  exact reached

theorem Rejects.exists_stopsBefore {point : Point State} {step : Step}
    {later : List Step} {error : ReplayError}
    (rejected : performance.Rejects point step later error) :
    ∃ earlier queries,
      performance.StopsBefore point earlier step later queries error := by
  obtain ⟨reached, failed, rejects⟩ := rejected
  obtain ⟨earlier, completed, order⟩ := reached.exists_completed
  cases ran : performance.runPart
      (executeStep performance.request point.panes step) point.state with
  | mk queries ending next =>
      rw [ran] at failed
      cases failed
      have run := reached.run_of_failed ran
      cases outcome_of_run ran with
      | rejected quiet reason =>
          exact ⟨earlier, queries, order, completed,
            fun _ _ => completed.exists_created,
            fun _ _ _ _ _ => completed.get?_created, reason, quiet,
            by rw [run], by rw [run]⟩
      | disrupted disruption _ =>
          cases disruption <;> cases rejects

/-- A run that ends with an error about what a step says has rejected a step. -/
theorem Stepping.exists_rejects {steps : List Step} {point : Point State}
    (stepping : performance.Stepping steps point) {error : ReplayError}
    (failed : performance.run.ending = .failed error)
    (rejects : error.RejectsStep) :
    (∃ cause, error = .fault cause) ∨ ∃ reached step later,
      performance.Rejects reached step later error := by
  induction steps generalizing point with
  | nil =>
      have reached := stepping.reaches
      rw [executeSteps, Session.pure_eq, Session.ok_bind] at reached
      rw [show performance.run = _ from reached] at failed
      exact .inl ((blameless_conclude performance.emission performance.request
        point.panes).of_failed failed rejects)
  | cons step later induction =>
      cases ran : performance.runPart
          (executeStep performance.request point.panes step) point.state with
      | mk events ending next =>
          cases ending with
          | returned built => exact induction (stepping.step ran)
          | failed known =>
              rw [stepping.run_of_failed ran] at failed
              cases failed
              exact .inr ⟨point, step, later, stepping, by rw [ran], rejects⟩
          | unanswered => cases outcome_of_run ran

theorem exists_rejects {error : ReplayError}
    (failed : performance.run.ending = .failed error)
    (rejects : error.RejectsStep) :
    (∃ cause, error = .fault cause) ∨ ∃ point step later,
      performance.Rejects point step later error := by
  by_cases hasInitial : performance.emission.summary.initialPaneId = ""
  · rw [run, runPart, Emission.replay_eq, if_pos hasInitial] at failed
    cases failed
    cases rejects
  cases isMode : WindowMode.ofName? performance.request.mode with
  | none =>
      rw [run, runPart, Emission.replay_eq, if_neg hasInitial, isMode] at failed
      cases failed
      cases rejects
  | some mode =>
      cases ran : performance.runPart (acquire performance.request
          performance.emission.summary.initialPaneId mode)
          performance.start with
      | mk events ending next =>
          cases ending with
          | returned initial =>
              have acquires : performance.Acquires events initial next :=
                ⟨hasInitial, mode, isMode, ran⟩
              exact (Stepping.acquired acquires).exists_rejects failed rejects
          | failed known =>
              rw [run, replay_of_acquires hasInitial isMode, runPart,
                Session.run_bind_of_failed ran] at failed
              cases failed
              exact .inl ((blameless_acquire performance.request
                performance.emission.summary.initialPaneId mode).of_failed
                  (congrArg Run.ending ran) rejects)
          | unanswered =>
              rw [runPart] at ran
              rw [run, replay_of_acquires hasInitial isMode, runPart,
                Session.run_bind, ran] at failed
              cases failed

/-- In a run that returns, all the steps that are left are carried out. -/
theorem Stepping.exists_built {steps : List Step} {point : Point State}
    {result : ReplayResult} (stepping : performance.Stepping steps point)
    (returned : performance.run.ending = .returned result) :
    ∃ built, performance.Stepping [] built := by
  induction steps generalizing point with
  | nil => exact ⟨point, stepping⟩
  | cons step later induction =>
      have reached := stepping.reaches
      rw [executeSteps, Session.bind_assoc] at reached
      obtain ⟨events, panes, state, executed⟩ :=
        reached.exists_returned returned
      exact induction (stepping.step executed)

/-- A run that returns has carried out every step completely. -/
theorem exists_completed {result : ReplayResult}
    (returned : performance.run.ending = .returned result) :
    ∃ steps point, performance.Completed steps point ∧
      performance.emission.steps = steps.map Prod.fst := by
  obtain ⟨_, _, _, acquires⟩ := exists_acquires returned
  obtain ⟨built, stepping⟩ :=
    (Stepping.acquired acquires).exists_built returned
  obtain ⟨steps, completed, order⟩ := stepping.exists_completed
  exact ⟨steps, built, completed, by rw [order, List.append_nil]⟩

/-- A step that is rejected changes nothing.  The divisions of a run are those
of its split steps, at most one each and in order.  When a step is rejected, the
steps before it are carried out completely, it has only sent queries itself, and
the run ends there.  A run that ends with an error about what a step says has
rejected a step, unless the error is a fault; and a run that returns has carried
out every step, so that no step with a flaw is passed over. -/
theorem rejected_step_changes_nothing (performance : Performance State) :
    DividesInOrder performance.emission.steps
      (divisionsOf performance.run.events) ∧
    (∀ point step later error, performance.Rejects point step later error →
      ∃ earlier queries,
        performance.StopsBefore point earlier step later queries error) ∧
    (∀ error, performance.run.ending = .failed error → error.RejectsStep →
      (∃ cause, error = .fault cause) ∨ ∃ point step later,
        performance.Rejects point step later error) ∧
    ∀ result, performance.run.ending = .returned result →
      ∃ steps point, performance.Completed steps point ∧
        performance.emission.steps = steps.map Prod.fst :=
  ⟨dividesInOrder_replay _ _ _ _ _,
    fun _ _ _ _ rejected => rejected.exists_stopsBefore,
    fun _ failed rejects => exists_rejects failed rejects,
    fun _ returned => exists_completed returned⟩

/-- Two divisions and a selection, in a window of ten cells.  The second
division asks for more cells than there are. -/
def narrow : Performance ScriptedWindow where
  emission := {
    steps := [
      .split {
        id := "first"
        summary := "half"
        targetPaneId := some "root"
        createdPaneId := some "root.1"
        orientation := some .horizontal
        percentage := some 50 },
      .split {
        id := "second"
        summary := "twenty cells"
        targetPaneId := some "root.1"
        createdPaneId := some "root.2"
        orientation := some .vertical
        sizing := some (.dynamic {
          target := .cells 20 (by decide)
          remainingCells := 0
          remainingWeight := 1
          remainingWeightCount := 1 }) },
      .focus { id := "third", summary := "", targetPaneId := some "root" }]
    terminals := [{ virtualPaneId := "root", name := "shell" }]
    summary := ⟨3, "root", "root"⟩
    hash := "" }
  request := {}
  server := ScriptedWindow.server { size := "10" }
  consent := fun _ => none
  start := {}

/-- The step that a run rejected because of its size, with the commands that
were sent. -/
def unsized? (performance : Performance ScriptedWindow) :
    Option (String × List Command) :=
  match performance.run.ending with
  | .failed (.unresolvedSize _ _ _ stepId) =>
      some (stepId, performance.run.commands)
  | _ => none

/-- The pane of the first division is recorded when the second is rejected. -/
theorem rejected_step_changes_nothing_narrow :
    ∃ point earlier step later queries error,
      narrow.StopsBefore point earlier step later queries error ∧
      narrow.run.commands = [
        ["new-window", "-P", "-F", paneIdFormat],
        Command.listing,
        Command.dividing .horizontal "%1" "-p" "50",
        Command.listing,
        Command.listing,
        sizeQuery .vertical "%2"] := by
  have evaluated : unsized? narrow = some ("second", [
      ["new-window", "-P", "-F", paneIdFormat],
      Command.listing,
      Command.dividing .horizontal "%1" "-p" "50",
      Command.listing,
      Command.listing,
      sizeQuery .vertical "%2"]) := by
    decide +kernel
  unfold unsized? at evaluated
  split at evaluated
  · next sizing cells cause stepId failed =>
    obtain ⟨_, stops, rejected, _⟩ := rejected_step_changes_nothing narrow
    rcases rejected _ failed (.unresolvedSize sizing cells cause stepId) with
      ⟨_, isFault⟩ | ⟨point, step, later, rejects⟩
    · cases isFault
    · obtain ⟨earlier, queries, stopsBefore⟩ := stops _ _ _ _ rejects
      exact ⟨point, earlier, step, later, queries, _, stopsBefore,
        (Prod.mk.inj (Option.some.inj evaluated)).2⟩
  · cases evaluated

end Performance

end Replay

end PaneLayout
