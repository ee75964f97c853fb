import PaneLayout.Proofs.Session

/-!
# Sessions and what happened before

Whether an event is in order may depend on the events before it, and so may the
result of a session.  `Heeds` says that a session keeps to such a rule however
it is answered.  It is proved along the session, and it then holds of every run.
-/

namespace PaneLayout

/-- The result with which a run ended, unless a question got no answer. -/
def Ending.result? {ε α : Type} : Ending ε α → Option (Except ε α)
  | .returned value => some (.ok value)
  | .failed error => some (.error error)
  | .unanswered => none

namespace Session

variable {ε α β State : Type}

/-- After the events that are past, every event of the session is allowed by
those before it, and its results fit everything that happened. -/
inductive Heeds (allowed : List Event → Event → Prop)
    (results : List Event → Except ε α → Prop) :
    List Event → Session ε α → Prop where
  | done {past : List Event} {result : Except ε α} :
      results past result → Heeds allowed results past (.done result)
  | send {past : List Event} {command : Command}
      {next : Answer → Session ε α} :
      (∀ answer, allowed past (.sent command answer)) →
      (∀ answer, Heeds allowed results (past ++ [.sent command answer])
        (next answer)) →
      Heeds allowed results past (.send command next)
  | ask {past : List Event} {panes : List String}
      {next : Value → Session ε α} :
      allowed past (.asked panes) →
      (∀ answer, Heeds allowed results (past ++ [.asked panes])
        (next answer)) →
      Heeds allowed results past (.ask panes next)
  | wait {past : List Event} {seconds : Float} {next : Session ε α} :
      allowed past (.waited seconds) →
      Heeds allowed results (past ++ [.waited seconds]) next →
      Heeds allowed results past (.wait seconds next)
  | note {past : List Event} {virtualId realId : String}
      {next : Session ε α} :
      allowed past (.noted virtualId realId) →
      Heeds allowed results (past ++ [.noted virtualId realId]) next →
      Heeds allowed results past (.note virtualId realId next)

namespace Heeds

variable {allowed : List Event → Event → Prop}
  {results : List Event → Except ε α → Prop}
  {laterResults : List Event → Except ε β → Prop}
  {past : List Event} {session : Session ε α}

/-- What comes after a session may rely on what its value fits. -/
theorem bind {continue_ : α → Session ε β}
    (heeds : Heeds allowed results past session)
    (returned : ∀ more value, results (past ++ more) (.ok value) →
      Heeds allowed laterResults (past ++ more) (continue_ value))
    (failed : ∀ more error, results (past ++ more) (.error error) →
      laterResults (past ++ more) (.error error)) :
    Heeds allowed laterResults past (session >>= continue_) := by
  induction heeds with
  | @done past result holds =>
      cases result with
      | ok value =>
          have rest := returned [] value (by rwa [List.append_nil])
          rwa [List.append_nil] at rest
      | error error =>
          have holds := failed [] error (by rwa [List.append_nil])
          rw [List.append_nil] at holds
          exact .done holds
  | @send past command next isAllowed _ induction =>
      refine .send isAllowed fun answer => induction answer ?_ ?_
      · intro more value
        rw [List.append_assoc]
        exact returned _ value
      · intro more error
        rw [List.append_assoc]
        exact failed _ error
  | @ask past panes next isAllowed _ induction =>
      refine .ask isAllowed fun answer => induction answer ?_ ?_
      · intro more value
        rw [List.append_assoc]
        exact returned _ value
      · intro more error
        rw [List.append_assoc]
        exact failed _ error
  | @wait past seconds next isAllowed _ induction =>
      refine .wait isAllowed (induction ?_ ?_)
      · intro more value
        rw [List.append_assoc]
        exact returned _ value
      · intro more error
        rw [List.append_assoc]
        exact failed _ error
  | @note past virtualId realId next isAllowed _ induction =>
      refine .note isAllowed (induction ?_ ?_)
      · intro more value
        rw [List.append_assoc]
        exact returned _ value
      · intro more error
        rw [List.append_assoc]
        exact failed _ error

/-- A run is in order if its first event is, and so is the rest after it. -/
theorem events_after {event first : Event} {before after : List Event}
    {run : Run ε α State} (isAllowed : allowed past first)
    (rest : ∀ before after, run.events = before ++ event :: after →
      allowed (past ++ [first] ++ before) event)
    (events : (run.after first).events = before ++ event :: after) :
    allowed (past ++ before) event := by
  rw [Run.after_events] at events
  cases before with
  | nil =>
      obtain ⟨rfl, _⟩ := List.cons.inj events
      rwa [List.append_nil]
  | cons other before =>
      obtain ⟨rfl, later⟩ := List.cons.inj events
      have holds := rest before after later
      rwa [List.append_assoc, List.singleton_append] at holds

/-- Every event of a run is allowed after those before it. -/
theorem allowed_of_run (heeds : Heeds allowed results past session)
    (server : Server State) (consent : List String → Option Value)
    (state : State) {before after : List Event} {event : Event}
    (events : (session.run server consent state).events =
      before ++ event :: after) :
    allowed (past ++ before) event := by
  induction heeds generalizing state before after with
  | @done past result _ => cases result <;> simp at events
  | send isAllowed _ induction =>
      exact events_after (isAllowed _)
        (fun before after => induction _ _) events
  | @ask past panes next isAllowed _ induction =>
      cases answered : consent panes with
      | none =>
          rw [run_ask_unanswered _ _ answered] at events
          have stopped : (Run.after (.asked panes)
              ⟨[], .unanswered, state⟩ : Run ε α State).events =
                before ++ event :: after := events
          exact events_after isAllowed (by simp) stopped
      | some answer =>
          rw [run_ask_answered _ _ answered] at events
          exact events_after isAllowed
            (fun before after => induction answer state) events
  | wait isAllowed _ induction =>
      exact events_after isAllowed (fun before after => induction state) events
  | note isAllowed _ induction =>
      exact events_after isAllowed (fun before after => induction state) events

/-- The result of a run fits what happened in it. -/
theorem results_of_run (heeds : Heeds allowed results past session)
    (server : Server State) (consent : List String → Option Value)
    (state : State) {result : Except ε α}
    (ended : (session.run server consent state).ending.result? =
      some result) :
    results (past ++ (session.run server consent state).events) result := by
  induction heeds generalizing state with
  | @done past known holds =>
      cases known <;> cases ended <;> rwa [run, List.append_nil]
  | send _ _ induction =>
      rw [run_send] at ended ⊢
      simpa using induction _ _ ended
  | @ask past panes next _ _ induction =>
      cases answered : consent panes with
      | none =>
          rw [run_ask_unanswered _ _ answered] at ended
          cases ended
      | some answer =>
          rw [run_ask_answered _ _ answered] at ended ⊢
          simpa using induction answer state ended
  | wait _ _ induction =>
      rw [run_wait] at ended ⊢
      simpa using induction state ended
  | note _ _ induction =>
      rw [run_note] at ended ⊢
      simpa using induction state ended

/-- The value that a run returned fits what happened in it. -/
theorem fits_of_returned (heeds : Heeds allowed results past session)
    {server : Server State} {consent : List String → Option Value}
    {state next : State} {events : List Event} {value : α}
    (returned : session.run server consent state =
      ⟨events, .returned value, next⟩) :
    results (past ++ events) (.ok value) := by
  have fits := heeds.results_of_run server consent state
    (congrArg (fun run => run.ending.result?) returned)
  rwa [returned] at fits

end Heeds

/-- How a session can end does not depend on what happened before. -/
theorem Ends.heeds {results : Except ε α → Prop} {session : Session ε α}
    (ends : session.Ends results) (past : List Event) :
    Heeds (fun _ _ => True) (fun _ => results) past session := by
  induction ends generalizing past with
  | done holds => exact .done holds
  | send _ induction =>
      exact .send (fun _ => trivial) fun answer => induction answer _
  | ask _ induction => exact .ask trivial fun answer => induction answer _
  | wait _ induction => exact .wait trivial (induction _)
  | note _ induction => exact .note trivial (induction _)

end Session

end PaneLayout
