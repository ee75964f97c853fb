import PaneLayout.Proofs.Entries
import PaneLayout.Proofs.Replay.Size
import PaneLayout.Proofs.Replay.Work
import PaneLayout.Server.Scripted

/-!
# Replays stop at the first failing call

A server that behaves like another one but fails at one of its calls receives
the same commands up to that call, and none after it.  The error of the replay
is that of the call site, under the id of what is being processed.
-/

namespace PaneLayout

/-- The server that behaves like another one and fails at one position of the
commands it receives, counted from zero. -/
def Server.failingAt {State : Type} (server : Server State) (position : Nat)
    (error : CallError) : Server (State × Nat) where
  step command := fun (state, received) =>
    if received = position then
      (.error error, (state, received + 1))
    else
      let (answer, next) := server.step command state
      (answer, (next, received + 1))
  isDryRun := server.isDryRun

section FailingAt

variable {ε α State : Type} {server : Server State} {position : Nat}
  {error : CallError}

theorem Server.failingAt_step_here (command : Command) (state : State) :
    (server.failingAt position error).step command (state, position) =
      (.error error, (state, position + 1)) := by
  simp [Server.failingAt]

theorem Server.failingAt_step_elsewhere {received : Nat}
    (elsewhere : received ≠ position) (command : Command) (state : State) :
    (server.failingAt position error).step command (state, received) =
      ((server.step command state).1,
        ((server.step command state).2, received + 1)) := by
  simp [Server.failingAt, elsewhere]

/-- A run that ends before the failing position is not changed by it. -/
theorem Session.run_failingAt_of_le (consent : List String → Option Value)
    (session : Session ε α) (state : State) (received : Nat)
    (early : received + (session.run server consent state).commands.length ≤
      position) :
    session.run (server.failingAt position error) consent (state, received) =
      ⟨(session.run server consent state).events,
        (session.run server consent state).ending,
        ((session.run server consent state).state,
          received + (session.run server consent state).commands.length)⟩ := by
  induction session generalizing state received with
  | done result => cases result <;> rfl
  | send command next induction =>
      rw [Session.run_send, Run.after_commands] at early
      simp only [Event.command?, Option.toList_some, List.singleton_append,
        List.length_cons] at early
      have notYet : received ≠ position := by omega
      rw [Session.run_send, Server.failingAt_step_elsewhere notYet]
      dsimp only
      rw [induction _ _ (received + 1) (by omega), Session.run_send,
        Run.after_commands]
      simp only [Run.after, Event.command?, Option.toList_some,
        List.singleton_append, List.length_cons, Run.mk.injEq, Prod.mk.injEq,
        true_and]
      omega
  | ask panes next induction =>
      cases answered : consent panes with
      | none =>
          simp only [Session.run_ask_unanswered _ _ answered]
          rfl
      | some answer =>
          simp only [Session.run_ask_answered _ _ answered] at early ⊢
          rw [induction answer state received early]
          rfl
  | wait seconds next induction =>
      rw [Session.run_wait] at early
      rw [Session.run_wait, induction state received early]
      rfl
  | note virtualId realId next induction =>
      rw [Session.run_note] at early
      rw [Session.run_note, induction state received early]
      rfl

end FailingAt

namespace Replay

/-- A run goes on like another one until a call, which fails and ends it. -/
structure StopsAt {State OtherState α : Type} (call : Nat) (site : CallSite)
    (error : CallError) (run : Run ReplayError α State)
    (stopped : Run ReplayError α OtherState) : Prop where
  events : ∃ before answer after,
    run.events = before ++ .sent site.command answer :: after ∧
      stopped.events = before ++ [.sent site.command (.error error)] ∧
      (before.filterMap Event.command?).length = call
  ending : stopped.ending = .failed (site.failure error)

namespace StopsAt

variable {State OtherState α β : Type} {call : Nat} {site : CallSite}
  {error : CallError} {run : Run ReplayError α State}
  {stopped : Run ReplayError α OtherState}

/-- What happens before a run moves the call on by the commands in it. -/
theorem after_events (stops : StopsAt call site error run stopped)
    (earlier : List Event) {longer : Run ReplayError β State}
    {longerStopped : Run ReplayError β OtherState}
    (events : longer.events = earlier ++ run.events)
    (stoppedEvents : longerStopped.events = earlier ++ stopped.events)
    (ending : longerStopped.ending = .failed (site.failure error)) :
    StopsAt ((earlier.filterMap Event.command?).length + call) site error
      longer longerStopped := by
  obtain ⟨before, answer, after, runEvents, stoppedRunEvents, count⟩ :=
    stops.events
  refine ⟨⟨earlier ++ before, answer, after, ?_, ?_, ?_⟩, ending⟩
  · rw [events, runEvents, List.append_assoc]
  · rw [stoppedEvents, stoppedRunEvents, List.append_assoc]
  · rw [List.filterMap_append, List.length_append, count]

theorem after (stops : StopsAt call site error run stopped) (event : Event) :
    StopsAt (event.command?.toList.length + call) site error
      (run.after event) (stopped.after event) := by
  have moved : StopsAt (([event].filterMap Event.command?).length + call) site
      error (run.after event) (stopped.after event) :=
    stops.after_events [event] rfl rfl stops.ending
  cases event <;> exact moved

/-- What would come after the call plays no role. -/
theorem andThen (stops : StopsAt call site error run stopped)
    (continue_ : α → State → Run ReplayError β State)
    (otherContinue : α → OtherState → Run ReplayError β OtherState) :
    StopsAt call site error (run.andThen continue_)
      (stopped.andThen otherContinue) := by
  obtain ⟨before, answer, after, runEvents, stoppedEvents, count⟩ :=
    stops.events
  obtain ⟨later, longer⟩ := run.andThen_events continue_
  rw [Run.andThen_of_failed stops.ending]
  refine ⟨⟨before, answer, after ++ later, ?_, stoppedEvents, count⟩, rfl⟩
  rw [longer, runEvents, List.append_assoc, List.cons_append]

theorem commands_eq (stops : StopsAt call site error run stopped) :
    stopped.commands = run.commands.take (call + 1) := by
  obtain ⟨before, answer, after, runEvents, stoppedEvents, count⟩ :=
    stops.events
  simp only [Run.commands, runEvents, stoppedEvents, List.filterMap_append,
    List.filterMap_cons, List.filterMap_nil, Event.command?]
  rw [← count, List.take_length_add_append]
  rfl

end StopsAt

/-- An orderly part stops at any call that fails. -/
theorem Orderly.stopsAt {State α : Type} {calls : CallSite → Prop}
    {asks : List String → Prop} {part : Part α}
    (orderly : Orderly calls asks part) (server : Server State)
    (consent : List String → Option Value) (state : State) (call : Nat)
    (reached : call < (part.run server consent state).commands.length) :
    ∃ site, calls site ∧ ∀ received error,
      StopsAt call site error (part.run server consent state)
        (part.run (server.failingAt (received + call) error) consent
          (state, received)) := by
  induction orderly generalizing state call with
  | done result => cases result <;> simp [Run.commands] at reached
  | @send site next holds failure rest induction =>
      cases call with
      | zero =>
          -- This is the call that fails.
          refine ⟨site, holds, fun received error => ?_⟩
          rw [Session.run_send, Session.run_send, Nat.add_zero,
            Server.failingAt_step_here]
          dsimp only
          rw [failure error]
          exact ⟨⟨[], _, _, rfl, rfl, rfl⟩, rfl⟩
      | succ call =>
          -- This call is answered as it would be without the failure.
          rw [Session.run_send, Run.after_commands] at reached
          simp only [Event.command?, Option.toList_some, List.singleton_append,
            List.length_cons, Nat.add_lt_add_iff_right] at reached
          cases answered : (server.step site.command state).1 with
          | error error =>
              rw [answered, failure error] at reached
              simp [Run.commands] at reached
          | ok output =>
              rw [answered] at reached
              obtain ⟨laterSite, laterHolds, stops⟩ :=
                induction output (server.step site.command state).2 call reached
              refine ⟨laterSite, laterHolds, fun received error => ?_⟩
              have elsewhere : received ≠ received + (call + 1) := by omega
              rw [Session.run_send, Session.run_send,
                Server.failingAt_step_elsewhere elsewhere]
              dsimp only
              rw [answered, Nat.add_comm call 1, ← Nat.add_assoc]
              exact (stops (received + 1) error).after
                (.sent site.command (.ok output))
  | @ask panes next question rest induction =>
      cases answered : consent panes with
      | none =>
          rw [Session.run_ask_unanswered _ _ answered] at reached
          exact absurd reached (Nat.not_lt_zero call)
      | some answer =>
          rw [Session.run_ask_answered _ _ answered, Run.after_commands]
            at reached
          obtain ⟨site, holds, stops⟩ := induction answer state call reached
          refine ⟨site, holds, fun received error => ?_⟩
          rw [Session.run_ask_answered _ _ answered,
            Session.run_ask_answered _ _ answered]
          simpa [Event.command?] using
            (stops received error).after (.asked panes)
  | @wait seconds next rest induction =>
      rw [Session.run_wait, Run.after_commands] at reached
      obtain ⟨site, holds, stops⟩ := induction state call reached
      refine ⟨site, holds, fun received error => ?_⟩
      rw [Session.run_wait, Session.run_wait]
      simpa [Event.command?] using
        (stops received error).after (.waited seconds)
  | @note virtualId realId next rest induction =>
      rw [Session.run_note, Run.after_commands] at reached
      obtain ⟨site, holds, stops⟩ := induction state call reached
      refine ⟨site, holds, fun received error => ?_⟩
      rw [Session.run_note, Session.run_note]
      simpa [Event.command?] using
        (stops received error).after (.noted virtualId realId)

/-- A log names a work for every command of a run, and when the command fails
the run stops with the error of one of that work's call sites. -/
def FollowsLog {State α : Type} (request : ReplayRequest)
    (server : Server State) (consent : List String → Option Value)
    (part : Part α) (state : State) (log : List Work) : Prop :=
  log.length = (part.run server consent state).commands.length ∧
    ∀ call work, log[call]? = some work →
      ∃ site, work.Calls request site ∧ ∀ received error,
        StopsAt call site error (part.run server consent state)
          (part.run (server.failingAt (received + call) error) consent
            (state, received))

section FollowsLog

variable {State α β : Type} {request : ReplayRequest} {server : Server State}
  {consent : List String → Option Value}

theorem followsLog_done (result : Except ReplayError α) (state : State) :
    FollowsLog request server consent (.done result) state [] := by
  refine ⟨by cases result <;> rfl, ?_⟩
  intro call work logged
  simp at logged

/-- A failing call of the first of two composed parts stops both. -/
theorem Orderly.bind_stopsAt_first {calls : CallSite → Prop}
    {asks : List String → Prop} {part : Part α}
    (orderly : Orderly calls asks part) (continue_ : α → Part β)
    (state : State) (call : Nat)
    (reached : call < (part.run server consent state).commands.length) :
    ∃ site, calls site ∧ ∀ received error,
      StopsAt call site error ((part >>= continue_).run server consent state)
        ((part >>= continue_).run (server.failingAt (received + call) error)
          consent (state, received)) := by
  obtain ⟨site, holds, stops⟩ :=
    orderly.stopsAt server consent state call reached
  refine ⟨site, holds, fun received error => ?_⟩
  rw [Session.run_bind, Session.run_bind]
  exact (stops received error).andThen _ _

/-- A failing call of the second of two composed parts comes after all calls of
the first. -/
theorem bind_stopsAt_second {part : Part α} {continue_ : α → Part β}
    {state : State} {value : α} {call received : Nat} {site : CallSite}
    {error : CallError}
    (returned : (part.run server consent state).ending = .returned value)
    (stops : StopsAt call site error
      ((continue_ value).run server consent
        (part.run server consent state).state)
      ((continue_ value).run
        (server.failingAt (received +
          (part.run server consent state).commands.length + call) error)
        consent ((part.run server consent state).state,
          received + (part.run server consent state).commands.length))) :
    StopsAt ((part.run server consent state).commands.length + call) site
      error ((part >>= continue_).run server consent state)
      ((part >>= continue_).run
        (server.failingAt (received +
          (part.run server consent state).commands.length + call) error)
        consent (state, received)) := by
  have unaffected : part.run
      (server.failingAt (received +
        (part.run server consent state).commands.length + call) error)
      consent (state, received) = _ :=
    Session.run_failingAt_of_le consent part state received (by omega)
  have stoppedReturned := congrArg Run.ending unaffected
  rw [Session.run_bind, Session.run_bind, Run.andThen_of_returned returned,
    Run.andThen_of_returned (stoppedReturned.trans returned)]
  rw [unaffected]
  exact stops.after_events _ rfl rfl stops.ending

/-- What a part goes on with follows the log of what is worked on after it. -/
theorem followsLog_workAfter (part : Part α) {continue_ : α → Part β}
    (state : State) {later : α → State → List Work}
    (rest : ∀ value state, FollowsLog request server consent
      (continue_ value) state (later value state)) :
    let first := part.run server consent state
    let whole := part >>= continue_
    (whole.run server consent state).commands.length =
        first.commands.length + (workAfter first later).length ∧
      ∀ call work, (workAfter first later)[call]? = some work →
        ∃ site, work.Calls request site ∧ ∀ received error,
          StopsAt (first.commands.length + call) site error
            (whole.run server consent state)
            (whole.run
              (server.failingAt (received + first.commands.length + call)
                error) consent (state, received)) := by
  intro first whole
  cases ending : first.ending with
  | returned value =>
      obtain ⟨restLength, restStops⟩ := rest value first.state
      simp only [workAfter, ending]
      refine ⟨?_, ?_⟩
      · rw [Session.run_bind, Run.andThen_of_returned ending, restLength]
        simp [first, Run.commands]
      · intro call work logged
        obtain ⟨site, holds, stops⟩ := restStops call work logged
        exact ⟨site, holds, fun received error =>
          bind_stopsAt_second ending (stops _ error)⟩
  | failed error =>
      rw [Session.run_bind, Run.andThen_of_failed ending]
      simp [workAfter, ending, first, Run.commands]
  | unanswered =>
      rw [Session.run_bind, Run.andThen_of_unanswered ending]
      simp [workAfter, ending, first, Run.commands]

/-- A part credited to one work, and what it goes on with. -/
theorem FollowsLog.bind {work : Work} {part : Part α}
    {continue_ : α → Part β} {state : State} {later : α → State → List Work}
    (orderly : Orderly (work.Calls request) (mayAsk request) part)
    (rest : ∀ value state, FollowsLog request server consent
      (continue_ value) state (later value state)) :
    FollowsLog request server consent (part >>= continue_) state
      (credited work (part.run server consent state) later) := by
  obtain ⟨length, restStops⟩ := followsLog_workAfter part state rest
  rw [credited]
  refine ⟨?_, ?_⟩
  · rw [List.length_append, List.length_map, length]
  · intro call credit logged
    by_cases inFirst :
        call < (part.run server consent state).commands.length
    · rw [List.getElem?_append_left (by simpa using inFirst)] at logged
      have same : work = credit := by simpa [inFirst] using logged
      rw [← same]
      exact orderly.bind_stopsAt_first continue_ state call inFirst
    · rw [List.getElem?_append_right (by simpa using inFirst),
        List.length_map] at logged
      obtain ⟨site, holds, stops⟩ := restStops _ credit logged
      refine ⟨site, holds, fun received error => ?_⟩
      have stopsLater := stops received error
      have position : (part.run server consent state).commands.length +
          (call - (part.run server consent state).commands.length) =
            call := by omega
      rwa [Nat.add_assoc, position] at stopsLater

theorem followsLog_note {part : Part α} {state : State} {log : List Work}
    (follows : FollowsLog request server consent part state log)
    (virtualId realId : String) :
    FollowsLog request server consent (.note virtualId realId part) state
      log := by
  obtain ⟨length, stops⟩ := follows
  refine ⟨?_, ?_⟩
  · rw [Session.run_note, Run.after_commands, length]
    rfl
  · intro call work logged
    obtain ⟨site, holds, stops⟩ := stops call work logged
    refine ⟨site, holds, fun received error => ?_⟩
    rw [Session.run_note, Session.run_note]
    simpa [Event.command?] using
      (stops received error).after (.noted virtualId realId)

theorem followsLog_executeSteps {rest : PaneMap → Part β}
    {later : PaneMap → State → List Work}
    (restFollows : ∀ panes state, FollowsLog request server consent
      (rest panes) state (later panes state))
    (steps : List Step) (panes : PaneMap) (state : State) :
    FollowsLog request server consent
      (executeSteps request panes steps >>= rest) state
      (stepLog request server consent later panes steps state) := by
  induction steps generalizing panes state with
  | nil => exact restFollows panes state
  | cons step steps induction =>
      rw [executeSteps, Session.bind_assoc, stepLog]
      exact .bind ((orderly_executeStep request panes step).mono
        (fun _ => .execute) fun _ => id) fun panes state =>
          induction panes state

theorem followsLog_configureAll {focusPane : String} {named : Entries String}
    {rest : PaneMap → Part β} {later : PaneMap → State → List Work}
    (restFollows : ∀ panes state, FollowsLog request server consent
      (rest panes) state (later panes state))
    (terminals : List EmittedTerminal) (panes : PaneMap) (state : State) :
    FollowsLog request server consent
      (configureAll request focusPane named panes terminals >>= rest) state
      (terminalLog request server consent focusPane named later panes
        terminals state) := by
  induction terminals generalizing panes state with
  | nil => exact restFollows panes state
  | cons terminal terminals induction =>
      rw [configureAll, terminalLog]
      rcases panes.resolve terminal.virtualPaneId with ⟨_ | realId, panes⟩
      · exact followsLog_done _ state
      · dsimp only
        rw [Session.bind_assoc]
        exact .bind ((orderly_configure request terminal _).mono
          (fun _ => .configure) fun _ => id) fun _ state =>
            induction panes state

theorem followsLog_restoreFocus (focusId : String) (panes : PaneMap)
    (result : ReplayResult) (state : State) :
    FollowsLog request server consent
      (restoreFocus focusId panes >>= fun _ => pure result) state
      (focusLog server consent focusId panes state) :=
  .bind ((orderly_restoreFocus focusId panes).mono
    (fun _ => .restoreFocus) fun _ => id) fun _ state =>
      followsLog_done _ state

theorem followsLog_configureTerminals (terminals : List EmittedTerminal)
    (focusId : String) (panes : PaneMap) (result : ReplayResult)
    (state : State) :
    FollowsLog request server consent
      (configureTerminals request terminals focusId panes >>= fun panes =>
        restoreFocus focusId panes >>= fun _ => pure result) state
      (configurationLog request server consent terminals focusId panes
        state) := by
  unfold configureTerminals configurationLog
  cases panes.get? focusId with
  | none => exact followsLog_done _ state
  | some focusPane =>
      exact followsLog_configureAll
        (fun panes state =>
          followsLog_restoreFocus focusId panes result state)
        terminals _ state

theorem followsLog_replay (emission : Emission) (state : State) :
    FollowsLog request server consent (emission.replay request) state
      (emission.workLog request server consent state) := by
  unfold Emission.replay Emission.workLog
  dsimp only
  split
  · exact followsLog_done _ state
  · cases WindowMode.ofName? request.mode with
    | none => exact followsLog_done _ state
    | some mode =>
        refine .bind ((orderly_acquire request _ _).mono
          (fun _ => .acquire) fun _ => id) fun initial state => ?_
        exact followsLog_note (followsLog_executeSteps
          (fun panes state => followsLog_configureTerminals _ _ panes _ state)
          _ _ state) _ _

end FollowsLog

end Replay

open Replay in
/-- A replay against a server that fails at one of its calls sends the commands
before that call and the call itself, and nothing more happens.  It reports the
failure under the id of what it was working on: with code, message and details
of the failure if the server explains it, although the call site stands in for
missing details, and with the reason among the details of the call site
otherwise.  Only a size that cannot be resolved from what the server answered is
passed over, and only in a dry run. -/
theorem Emission.replay_stops_at_failing_call {State : Type}
    (emission : Emission) (request : ReplayRequest) (server : Server State)
    (consent : List String → Option Value) (state : State) (call : Nat)
    (error : CallError)
    (reached : call <
      ((emission.replay request).run server consent state).commands.length) :
    let run := (emission.replay request).run server consent state
    let stopped := (emission.replay request).run
      (server.failingAt call error) consent (state, 0)
    stopped.commands = run.commands.take (call + 1) ∧
      (∃ work site reported,
        (emission.workLog request server consent state)[call]? = some work ∧
        work.Calls request site ∧
        StopsAt call site error run stopped ∧
        (site.failure error).problem = .failure reported ∧
        reported.stage = "execution" ∧ reported.path = work.id? ∧
        match error with
        | .failure cause =>
            reported.code = cause.code ∧ reported.message = cause.message ∧
              reported.details =
                if cause.details.isEmpty then site.details else cause.details
        | .other reason =>
            reported.code = "TMUX_COMMAND_FAILED" ∧
              reported.details.get? "reason" = some (.text reason)) ∧
      ∀ stepId orientation sizing target here output cells next,
        request.isDryRun = true →
        server.step (sizeQuery orientation target) here = (.ok output, next) →
        paneCells output = .ok cells →
        sizing.resolve cells = .error .unknownSize ∨
          sizing.resolve cells = .error .tooSmall →
        (dynamicSize request stepId orientation sizing target).run server
            consent here =
          ⟨[.sent (sizeQuery orientation target) (.ok output)],
            .returned dynamicSizePlaceholder, next⟩ := by
  dsimp only
  obtain ⟨logged, follows⟩ : FollowsLog request server consent
      (emission.replay request) state
      (emission.workLog request server consent state) :=
    followsLog_replay emission state
  have credited := List.getElem?_eq_getElem (logged ▸ reached)
  obtain ⟨site, holds, stops⟩ := follows call _ credited
  have stopsHere := stops 0 error
  rw [Nat.zero_add] at stopsHere
  refine ⟨stopsHere.commands_eq, ⟨_, site, ?_, credited, holds, stopsHere, ?_⟩,
    fun stepId _ _ _ _ _ _ _ dry answered read unresolved =>
      dynamicSize_run_dry consent stepId dry answered read unresolved⟩
  · exact site.report error
  · refine ⟨site.problem_failure error, ?_⟩
    cases error with
    | failure cause => exact ⟨rfl, holds.path_eq.symm, rfl, rfl, rfl⟩
    | other reason =>
        exact ⟨rfl, holds.path_eq.symm, rfl, Entries.get?_put_self _ _ _⟩

/-- One split of a window, and the focus on the new pane. -/
def Emission.oneSplit : Emission where
  steps := [
    .split {
      id := "root:split:1"
      summary := "split root.0 (-h)"
      targetPaneId := some "root.0"
      createdPaneId := some "root.1"
      orientation := some .horizontal
      percentage := some 50 },
    .focus {
      id := "root.1:focus"
      summary := "select pane root.1"
      targetPaneId := some "root.1" }]
  terminals := []
  summary := ⟨2, "root.1", "root.0"⟩
  hash := ""

theorem Emission.replay_stops_at_failing_split :
    let session := Emission.oneSplit.replay { isDryRun := true }
    let window := ScriptedWindow.server {}
    2 < (session.run window (fun _ => none) {}).commands.length ∧
      (session.run (window.failingAt 2 (.other "no space")) (fun _ => none)
        ({}, 0)).commands =
          [["new-window", "-P", "-F", paneIdFormat],
            ["list-panes", "-F", paneIdFormat],
            ["split-window", "-h", "-t", "%1", "-p", "50"]] := by
  have reached : 2 < ((Emission.oneSplit.replay { isDryRun := true }).run
      (ScriptedWindow.server {}) (fun _ => none) {}).commands.length := by
    decide +kernel
  exact ⟨reached, (Emission.replay_stops_at_failing_call _ _ _ _ _ 2
    (.other "no space") reached).1.trans (by decide +kernel)⟩

end PaneLayout
