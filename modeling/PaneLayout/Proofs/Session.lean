import PaneLayout.Session

/-!
# Runs of composed sessions

The run of a session that goes on with another one is the run of the first,
followed by the run of the second from the state in which the first left the
server.  A server that fails at one position of the commands it receives does
not change a run that ends before that position.
-/

namespace PaneLayout

namespace Run

variable {ε α β State : Type}

/-- A run, followed by what its value leads to in the state after it. -/
def andThen (run : Run ε α State)
    (continue_ : α → State → Run ε β State) : Run ε β State :=
  match run.ending with
  | .returned value =>
      let next := continue_ value run.state
      ⟨run.events ++ next.events, next.ending, next.state⟩
  | .failed error => ⟨run.events, .failed error, run.state⟩
  | .unanswered => ⟨run.events, .unanswered, run.state⟩

@[simp] theorem after_events (event : Event) (run : Run ε α State) :
    (run.after event).events = event :: run.events := rfl

@[simp] theorem after_ending (event : Event) (run : Run ε α State) :
    (run.after event).ending = run.ending := rfl

@[simp] theorem after_state (event : Event) (run : Run ε α State) :
    (run.after event).state = run.state := rfl

theorem after_commands (event : Event) (run : Run ε α State) :
    (run.after event).commands = event.command?.toList ++ run.commands := by
  cases event <;> rfl

theorem after_andThen (event : Event) (run : Run ε α State)
    (continue_ : α → State → Run ε β State) :
    (run.after event).andThen continue_ =
      (run.andThen continue_).after event := by
  cases run with
  | mk events ending state => cases ending <;> rfl

theorem andThen_of_returned {run : Run ε α State} {value : α}
    (returned : run.ending = .returned value)
    (continue_ : α → State → Run ε β State) :
    run.andThen continue_ =
      ⟨run.events ++ (continue_ value run.state).events,
        (continue_ value run.state).ending,
        (continue_ value run.state).state⟩ := by
  simp [andThen, returned]

theorem andThen_of_failed {run : Run ε α State} {error : ε}
    (failed : run.ending = .failed error)
    (continue_ : α → State → Run ε β State) :
    run.andThen continue_ = ⟨run.events, .failed error, run.state⟩ := by
  simp [andThen, failed]

theorem andThen_of_unanswered {run : Run ε α State}
    (unanswered : run.ending = .unanswered)
    (continue_ : α → State → Run ε β State) :
    run.andThen continue_ = ⟨run.events, .unanswered, run.state⟩ := by
  simp [andThen, unanswered]

/-- A run that goes on keeps the events it had. -/
theorem andThen_events (run : Run ε α State)
    (continue_ : α → State → Run ε β State) :
    ∃ later, (run.andThen continue_).events = run.events ++ later := by
  cases ending : run.ending with
  | returned value =>
      exact ⟨_, by rw [andThen_of_returned ending]⟩
  | failed error =>
      exact ⟨[], by rw [andThen_of_failed ending, List.append_nil]⟩
  | unanswered =>
      exact ⟨[], by rw [andThen_of_unanswered ending, List.append_nil]⟩

/-- An event that is not of the first run happens once that has returned. -/
theorem exists_of_andThen_events {run : Run ε α State}
    {continue_ : α → State → Run ε β State} {before after : List Event}
    {event : Event}
    (events : (run.andThen continue_).events = before ++ event :: after)
    (absent : event ∉ run.events) :
    ∃ value later, run.ending = .returned value ∧
      before = run.events ++ later ∧
      (continue_ value run.state).events = later ++ event :: after := by
  cases ending : run.ending with
  | failed error =>
      rw [andThen_of_failed ending] at events
      exact absurd (by rw [events]; simp) absent
  | unanswered =>
      rw [andThen_of_unanswered ending] at events
      exact absurd (by rw [events]; simp) absent
  | returned value =>
      rw [andThen_of_returned ending] at events
      rcases List.append_eq_append_iff.mp events with
        ⟨later, isBefore, rest⟩ | ⟨others, isFirst, rest⟩
      · exact ⟨value, later, rfl, isBefore, rest⟩
      · cases others with
        | nil =>
            rw [List.append_nil] at isFirst
            exact ⟨value, [], rfl, by rw [isFirst, List.append_nil], rest.symm⟩
        | cons first others =>
            obtain ⟨rfl, _⟩ := List.cons.inj rest
            exact absurd (by rw [isFirst]; simp) absent

end Run

namespace Session

variable {ε α β State : Type}

section Run

variable (server : Server State) (consent : List String → Option Value)

@[simp] theorem run_ok (value : α) (state : State) :
    (.done (.ok value) : Session ε α).run server consent state =
      ⟨[], .returned value, state⟩ := rfl

@[simp] theorem run_error (error : ε) (state : State) :
    (.done (.error error) : Session ε α).run server consent state =
      ⟨[], .failed error, state⟩ := rfl

theorem run_send (command : Command) (next : Answer → Session ε α)
    (state : State) :
    (Session.send command next).run server consent state =
      ((next (server.step command state).1).run server consent
        (server.step command state).2).after
          (.sent command (server.step command state).1) := rfl

theorem run_ask_answered {panes : List String} {answer : Value}
    (answered : consent panes = some answer) (next : Value → Session ε α)
    (state : State) :
    (Session.ask panes next).run server consent state =
      ((next answer).run server consent state).after (.asked panes) := by
  simp [run, answered]

theorem run_ask_unanswered {panes : List String}
    (unanswered : consent panes = none) (next : Value → Session ε α)
    (state : State) :
    (Session.ask panes next).run server consent state =
      ⟨[.asked panes], .unanswered, state⟩ := by
  simp [run, unanswered]

theorem run_wait (seconds : Float) (next : Session ε α) (state : State) :
    (Session.wait seconds next).run server consent state =
      (next.run server consent state).after (.waited seconds) := rfl

theorem run_note (virtualId realId : String) (next : Session ε α)
    (state : State) :
    (Session.note virtualId realId next).run server consent state =
      (next.run server consent state).after (.noted virtualId realId) := rfl

end Run

@[simp] theorem pure_eq (value : α) :
    (pure value : Session ε α) = .done (.ok value) := rfl

@[simp] theorem throw_eq (error : ε) :
    (throw error : Session ε α) = .done (.error error) := rfl

@[simp] theorem ok_bind (value : α) (continue_ : α → Session ε β) :
    ((.done (.ok value) : Session ε α) >>= continue_) = continue_ value := rfl

@[simp] theorem error_bind (error : ε) (continue_ : α → Session ε β) :
    ((.done (.error error) : Session ε α) >>= continue_) =
      .done (.error error) := rfl

theorem send_bind (command : Command) (next : Answer → Session ε α)
    (continue_ : α → Session ε β) :
    (.send command next >>= continue_) =
      .send command fun answer => next answer >>= continue_ := rfl

theorem bind_assoc {γ : Type} (session : Session ε α)
    (continue_ : α → Session ε β) (last : β → Session ε γ) :
    session >>= continue_ >>= last =
      session >>= fun value => continue_ value >>= last := by
  change (session.bind continue_).bind last =
    session.bind fun value => (continue_ value).bind last
  induction session with
  | done result => cases result <;> rfl
  | send command next induction => simp only [bind, induction]
  | ask panes next induction => simp only [bind, induction]
  | wait seconds next induction => simp only [bind, induction]
  | note virtualId realId next induction => simp only [bind, induction]

theorem run_bind (server : Server State)
    (consent : List String → Option Value) (session : Session ε α)
    (continue_ : α → Session ε β) (state : State) :
    (session >>= continue_).run server consent state =
      (session.run server consent state).andThen fun value state =>
        (continue_ value).run server consent state := by
  change (session.bind continue_).run server consent state = _
  induction session generalizing state with
  | done result =>
      cases result with
      | ok value => simp [bind, run, Run.andThen]
      | error error => rfl
  | send command next induction =>
      simp only [bind, run_send, induction, Run.after_andThen]
  | ask panes next induction =>
      simp only [bind]
      cases answered : consent panes with
      | none => simp only [run_ask_unanswered _ _ answered]; rfl
      | some answer =>
          simp only [run_ask_answered _ _ answered, induction,
            Run.after_andThen]
  | wait seconds next induction =>
      simp only [bind, run_wait, induction, Run.after_andThen]
  | note virtualId realId next induction =>
      simp only [bind, run_note, induction, Run.after_andThen]

/-- What follows a session that returned starts from its value and its state. -/
theorem run_bind_of_returned {server : Server State}
    {consent : List String → Option Value} {session : Session ε α}
    {state next : State} {events : List Event} {value : α}
    (returned : session.run server consent state =
      ⟨events, .returned value, next⟩)
    (continue_ : α → Session ε β) :
    (session >>= continue_).run server consent state =
      ⟨events ++ ((continue_ value).run server consent next).events,
        ((continue_ value).run server consent next).ending,
        ((continue_ value).run server consent next).state⟩ := by
  rw [run_bind, returned]
  rfl

/-- What follows a session that failed plays no role. -/
theorem run_bind_of_failed {server : Server State}
    {consent : List String → Option Value} {session : Session ε α}
    {state next : State} {events : List Event} {error : ε}
    (failed : session.run server consent state =
      ⟨events, .failed error, next⟩)
    (continue_ : α → Session ε β) :
    (session >>= continue_).run server consent state =
      ⟨events, .failed error, next⟩ := by
  rw [run_bind, failed]
  rfl

/-- A run that returned went through both of its parts. -/
theorem exists_of_run_bind {server : Server State}
    {consent : List String → Option Value} {session : Session ε α}
    {continue_ : α → Session ε β} {state last : State} {events : List Event}
    {value : β}
    (returned : (session >>= continue_).run server consent state =
      ⟨events, .returned value, last⟩) :
    ∃ before first middle later,
      session.run server consent state = ⟨before, .returned first, middle⟩ ∧
      (continue_ first).run server consent middle =
        ⟨later, .returned value, last⟩ ∧
      events = before ++ later := by
  rw [run_bind] at returned
  cases ran : session.run server consent state with
  | mk before ending middle =>
      rw [ran] at returned
      cases ending with
      | failed error => cases returned
      | unanswered => cases returned
      | returned first =>
          rw [Run.andThen_of_returned rfl] at returned
          cases rest : (continue_ first).run server consent middle with
          | mk later ending last =>
              rw [rest] at returned
              cases returned
              exact ⟨before, first, middle, later, rfl, rest, rfl⟩

/-- What comes first in a run that returned has returned. -/
theorem exists_of_returned_bind {server : Server State}
    {consent : List String → Option Value} {session : Session ε α}
    {continue_ : α → Session ε β} {state : State} {value : β}
    (returned : ((session >>= continue_).run server consent state).ending =
      .returned value) :
    ∃ events first middle, session.run server consent state =
      ⟨events, .returned first, middle⟩ := by
  cases ran : (session >>= continue_).run server consent state with
  | mk events ending last =>
      rw [ran] at returned
      cases returned
      obtain ⟨before, first, middle, _, isFirst, _⟩ := exists_of_run_bind ran
      exact ⟨before, first, middle, isFirst⟩

/-- However the server and the person who is asked answer, the session can only
end in results of one kind. -/
inductive Ends (results : Except ε α → Prop) : Session ε α → Prop where
  | done {result : Except ε α} : results result → Ends results (.done result)
  | send {command : Command} {next : Answer → Session ε α} :
      (∀ answer, Ends results (next answer)) →
      Ends results (.send command next)
  | ask {panes : List String} {next : Value → Session ε α} :
      (∀ answer, Ends results (next answer)) → Ends results (.ask panes next)
  | wait {seconds : Float} {next : Session ε α} :
      Ends results next → Ends results (.wait seconds next)
  | note {virtualId realId : String} {next : Session ε α} :
      Ends results next → Ends results (.note virtualId realId next)

theorem ends_trivial (session : Session ε α) :
    session.Ends fun _ => True := by
  induction session with
  | done result => exact .done trivial
  | send command next induction => exact .send induction
  | ask panes next induction => exact .ask induction
  | wait seconds next induction => exact .wait induction
  | note virtualId realId next induction => exact .note induction

theorem Ends.bind {results : Except ε α → Prop}
    {laterResults : Except ε β → Prop} {session : Session ε α}
    {continue_ : α → Session ε β} (ends : Ends results session)
    (returned : ∀ value, results (.ok value) →
      Ends laterResults (continue_ value))
    (failed : ∀ error, results (.error error) →
      laterResults (.error error)) :
    Ends laterResults (session >>= continue_) := by
  induction ends with
  | @done result holds =>
      cases result with
      | ok value => exact returned value holds
      | error error => exact .done (failed error holds)
  | send _ induction => exact .send induction
  | ask _ induction => exact .ask induction
  | wait _ induction => exact .wait induction
  | note _ induction => exact .note induction

end Session

end PaneLayout
