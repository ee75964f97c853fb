import PaneLayout.Proofs.Replay.Call

/-!
# The shapes of an acquisition

Panes are closed only while the current window is acquired.  That phase has few
shapes: queries, at most one question, and at most one command that closes
panes, in this order.
-/

namespace PaneLayout

/-- The command only asks the server for something. -/
def Command.IsQuery (command : Command) : Prop :=
  command.head? = some "display-message" ∨ command.head? = some "list-panes"

def Command.ClosesPanes (command : Command) : Prop :=
  command.head? = some "kill-pane"

instance (command : Command) : Decidable command.ClosesPanes :=
  inferInstanceAs (Decidable (command.head? = some "kill-pane"))

def closingCommand (current : String) : Command :=
  ["kill-pane", "-a", "-t", current]

def commandsOf (events : List Event) : List Command :=
  events.filterMap Event.command?

theorem commandsOf_append (first later : List Event) :
    commandsOf (first ++ later) = commandsOf first ++ commandsOf later :=
  List.filterMap_append

namespace Event

def IsQuery : Event → Prop
  | .sent command _ => Command.IsQuery command
  | _ => False

end Event

theorem Value.isTrue_iff (value : Value) :
    value.isTrue = true ↔ value = .bool true := by
  cases value with
  | bool value => cases value <;> simp [isTrue]
  | _ => simp [isTrue]

namespace Replay

/-- What holds of the calls of an orderly part holds of all its commands. -/
theorem Orderly.forall_commands {α State : Type} {part : Part α}
    {calls : CallSite → Prop} {asks : List String → Prop}
    {property : Command → Prop} (orderly : Orderly calls asks part)
    (holds : ∀ site, calls site → property site.command)
    (server : Server State) (consent : List String → Option Value)
    (state : State) :
    ∀ command ∈ commandsOf (part.run server consent state).events,
      property command := by
  intro command member
  obtain ⟨event, inEvents, isCommand⟩ := List.mem_filterMap.mp member
  cases event with
  | sent sentCommand answer =>
      cases isCommand
      obtain ⟨site, call, rfl⟩ :=
        (orderly.mem_events server consent state).1 _ answer inEvents
      exact holds site call
  | _ => cases isCommand

/-- How the current pane is known after some events: the program says it, it is
assumed in a dry run, or the server named it. -/
inductive IsCurrent (request : ReplayRequest) (events : List Event) :
    String → Prop where
  | stated : trimmed (request.currentPane.getD "") ≠ "" →
      IsCurrent request events (trimmed (request.currentPane.getD ""))
  | assumed : trimmed (request.currentPane.getD "") = "" →
      request.isDryRun = true → IsCurrent request events placeholderPane
  | named {output : String} :
      trimmed (request.currentPane.getD "") = "" →
      .sent ["display-message", "-p", paneIdFormat] (.ok output) ∈ events →
      trimmed output ≠ "" → IsCurrent request events (trimmed output)

theorem IsCurrent.mono {request : ReplayRequest}
    {events moreEvents : List Event} {current : String}
    (isCurrent : IsCurrent request events current)
    (kept : ∀ event ∈ events, event ∈ moreEvents) :
    IsCurrent request moreEvents current := by
  cases isCurrent with
  | stated stated => exact .stated stated
  | assumed unstated dry => exact .assumed unstated dry
  | named unstated member nonempty =>
      exact .named unstated (kept _ member) nonempty

/-- How the acquisition ends when closing the other panes is not allowed. -/
inductive Refused {α : Type} (consent : List String → Option Value)
    (others : List String) (path : String) :
    Ending ReplayError α → Prop where
  | unanswered : consent others = none →
      Refused consent others path .unanswered
  | declined {answer : Value} : consent others = some answer →
      answer ≠ .bool true →
      Refused consent others path (.failed (.declined others path))

/-- How closing the other panes comes to be allowed. -/
inductive Allowed (request : ReplayRequest)
    (consent : List String → Option Value) (others : List String) :
    List Event → Prop where
  | unasked : request.asks = false → Allowed request consent others []
  | asked : request.asks = true → consent others = some (.bool true) →
      Allowed request consent others [.asked others]

/-- The window lists panes other than the current one. -/
def ListsOthers (events : List Event) (current : String)
    (others : List String) : Prop :=
  ∃ output, .sent ["list-panes", "-F", paneIdFormat] (.ok output) ∈ events ∧
    others = (listedPanes output).filter (· ≠ current) ∧ others ≠ []

/-- The shapes that the acquisition of the current window has. -/
inductive CurrentWindow (request : ReplayRequest)
    (consent : List String → Option Value) (path : String) :
    List Event → Ending ReplayError String → Prop where
  /-- There are no other panes, or it ended before they were known. -/
  | queried {queries : List Event} {ending : Ending ReplayError String} :
      (∀ event ∈ queries, event.IsQuery) →
      CurrentWindow request consent path queries ending
  | refused {queries : List Event} {others : List String}
      {ending : Ending ReplayError String} :
      (∀ event ∈ queries, event.IsQuery) → request.asks = true →
      Refused consent others path ending →
      CurrentWindow request consent path (queries ++ [.asked others]) ending
  | closed {queries questions : List Event} {current : String}
      {others : List String} {answer : Answer}
      {ending : Ending ReplayError String} :
      (∀ event ∈ queries, event.IsQuery) →
      IsCurrent request queries current →
      ListsOthers queries current others →
      Allowed request consent others questions →
      CurrentWindow request consent path
        (queries ++ questions ++ [.sent (closingCommand current) answer])
        ending

section Acquire

variable {State : Type} (request : ReplayRequest) (server : Server State)
  (consent : List String → Option Value)

theorem run_currentPane (path : String) (state : State) :
    ∃ queries ending next,
      (currentPane request path).run server consent state =
        ⟨queries, ending, next⟩ ∧
      (∀ event ∈ queries, event.IsQuery) ∧
      ∀ current, ending = .returned current →
        IsCurrent request queries current := by
  unfold currentPane
  dsimp only
  by_cases stated : trimmed (request.currentPane.getD "") = ""
  · rw [if_neg (not_not_intro stated)]
    by_cases dry : request.isDryRun = true
    · rw [if_pos dry]
      refine ⟨[], _, _, rfl, by simp, ?_⟩
      rintro current ⟨⟩
      exact .assumed stated dry
    · rw [if_neg dry]
      rcases answered : server.step ["display-message", "-p", paneIdFormat]
        state with ⟨error | output, next⟩
      · rw [Session.run_bind_of_failed
          (run_perform_error consent answered _ path [])]
        exact ⟨_, _, _, rfl, by simp [Event.IsQuery, Command.IsQuery], nofun⟩
      · rw [Session.run_bind_of_returned
          (run_perform_ok consent answered _ path [])]
        by_cases blank : trimmed output = ""
        · rw [if_pos blank]
          exact ⟨_, _, _, rfl, by simp [Event.IsQuery, Command.IsQuery],
            nofun⟩
        · rw [if_neg blank]
          refine ⟨_, _, _, rfl, by simp [Event.IsQuery, Command.IsQuery], ?_⟩
          rintro current ⟨⟩
          exact .named stated (by simp) blank
  · rw [if_pos stated]
    refine ⟨[], _, _, rfl, by simp, ?_⟩
    rintro current ⟨⟩
    exact .stated stated

theorem run_confirmClosing (others : List String) (path : String)
    (state : State) :
    (∃ questions, Allowed request consent others questions ∧
      (confirmClosing request others path).run server consent state =
        ⟨questions, .returned (), state⟩) ∨
    ∃ ending, request.asks = true ∧ Refused consent others path ending ∧
      (confirmClosing request others path).run server consent state =
        ⟨[.asked others], ending, state⟩ := by
  unfold confirmClosing
  by_cases asks : request.asks = true
  · rw [if_pos asks]
    cases answered : consent others with
    | none =>
        rw [Session.run_ask_unanswered _ _ answered]
        exact .inr ⟨_, asks, .unanswered answered, rfl⟩
    | some answer =>
        rw [Session.run_ask_answered _ _ answered]
        by_cases agreed : answer.isTrue = true
        · rw [if_pos agreed]
          have answeredTrue := (Value.isTrue_iff answer).mp agreed ▸ answered
          exact .inl ⟨_, .asked asks answeredTrue, rfl⟩
        · rw [if_neg agreed]
          have notTrue := mt (Value.isTrue_iff answer).mpr agreed
          exact .inr ⟨_, asks, .declined answered notTrue, rfl⟩
  · rw [if_neg asks]
    exact .inl ⟨[], .unasked (by simpa using asks), rfl⟩

def closeOthers (current path : String) : Part String := do
  let _ ← perform (closingCommand current) "Failed to close existing panes"
    path (commandDetails (closingCommand current))
  return current

theorem run_closeOthers (current path : String) (state : State) :
    ∃ answer ending next,
      (closeOthers current path).run server consent state =
        ⟨[.sent (closingCommand current) answer], ending, next⟩ := by
  unfold closeOthers
  rcases answered : server.step (closingCommand current) state with
    ⟨error | output, next⟩
  · rw [Session.run_bind_of_failed
      (run_perform_error consent answered _ path _)]
    exact ⟨_, _, _, rfl⟩
  · rw [Session.run_bind_of_returned
      (run_perform_ok consent answered _ path _)]
    exact ⟨_, _, _, rfl⟩

theorem acquireCurrentWindow_eq (path : String) :
    acquireCurrentWindow request path =
      currentPane request path >>= fun current =>
        listPanes path >>= fun listed =>
          if listed.filter (· ≠ current) = [] then
            pure current
          else
            confirmClosing request (listed.filter (· ≠ current)) path >>=
              fun _ => closeOthers current path := by
  unfold acquireCurrentWindow
  refine congrArg _ (funext fun current => ?_)
  refine congrArg _ (funext fun listed => ?_)
  dsimp only
  cases listed.filter (· ≠ current) <;> rfl

theorem currentWindow_acquire (path : String) (state : State) :
    CurrentWindow request consent path
      ((acquireCurrentWindow request path).run server consent state).events
      ((acquireCurrentWindow request path).run server consent
        state).ending := by
  obtain ⟨queries, ending, next, run, onlyQueries, isCurrent⟩ :=
    run_currentPane request server consent path state
  rw [acquireCurrentWindow_eq, Session.run_bind, run]
  cases ending with
  | failed error => exact .queried onlyQueries
  | unanswered => exact .queried onlyQueries
  | returned current =>
      rw [Run.andThen_of_returned rfl]
      have moreQueries : ∀ answer, ∀ event ∈ queries ++
          [.sent ["list-panes", "-F", paneIdFormat] answer],
          event.IsQuery := by
        simp only [List.mem_append, List.mem_singleton]
        rintro answer event (member | rfl)
        · exact onlyQueries event member
        · exact .inr rfl
      rcases answered : server.step ["list-panes", "-F", paneIdFormat] next
        with ⟨error | output, next⟩
      · rw [Session.run_bind_of_failed
          (run_listPanes_error consent path answered)]
        exact .queried (moreQueries _)
      · rw [Session.run_bind_of_returned
          (run_listPanes_ok consent path answered)]
        dsimp only
        rw [← List.append_assoc]
        by_cases alone : (listedPanes output).filter (· ≠ current) = []
        · rw [if_pos alone, Session.pure_eq, Session.run_ok, List.append_nil]
          exact .queried (moreQueries _)
        · rw [if_neg alone, Session.run_bind]
          rcases run_confirmClosing request server consent
            ((listedPanes output).filter (· ≠ current)) path next with
            ⟨questions, allowed, run⟩ | ⟨_, asks, refused, run⟩
          · obtain ⟨answer, ending, last, closing⟩ :=
              run_closeOthers server consent current path next
            rw [run, Run.andThen_of_returned rfl]
            dsimp only
            rw [closing, ← List.append_assoc]
            exact .closed (moreQueries _)
              ((isCurrent current rfl).mono fun _ => List.mem_append_left _)
              ⟨output, by simp, rfl, alone⟩ allowed
          · rw [run]
            cases refused with
            | unanswered unanswered =>
                exact .refused (moreQueries _) asks (.unanswered unanswered)
            | declined answered notTrue =>
                exact .refused (moreQueries _) asks
                  (.declined answered notTrue)

end Acquire

end Replay

end PaneLayout
