import PaneLayout.Proofs.Session

/-!
# Sessions side by side

Two programs that differ in when they wait look the same to a server.  A session
runs alongside another one if it sends the same commands, asks the same
questions and ends in the same result, whatever the answers are.  It may wait
where the other one does not, and it may stop early with an error, if what
happened until then excuses that.

Servers that answer every sequence of commands alike then see the same commands
from both.
-/

namespace PaneLayout

/-! ### Servers that answer alike -/

namespace Server

variable {State Other : Type}

/-- The answers to a sequence of commands. -/
def answers (server : Server State) : State → List Command → List Answer
  | _, [] => []
  | state, command :: commands =>
      let (answer, next) := server.step command state
      answer :: server.answers next commands

/-- From two states on, two servers react alike to every sequence of
commands. -/
def AnswersLike (server : Server State) (other : Server Other) (state : State)
    (otherState : Other) : Prop :=
  ∀ commands, server.answers state commands = other.answers otherState commands

theorem AnswersLike.step {server : Server State} {other : Server Other}
    {state : State} {otherState : Other}
    (alike : server.AnswersLike other state otherState) (command : Command) :
    (server.step command state).1 = (other.step command otherState).1 ∧
      server.AnswersLike other (server.step command state).2
        (other.step command otherState).2 := by
  constructor
  · have single := alike [command]
    exact (List.cons.inj single).1
  · intro commands
    have longer := alike (command :: commands)
    exact (List.cons.inj longer).2

/-- Servers that only differ in whether they pretend answer alike. -/
theorem answersLike_of_step_eq {server other : Server State}
    (same : server.step = other.step) (state : State) :
    server.AnswersLike other state state := by
  intro commands
  induction commands generalizing state with
  | nil => rfl
  | cons command commands induction =>
      simp only [answers, same, induction]

end Server

/-! ### Runs apart from waits -/

namespace Run

variable {ε α State Other : Type}

/-- The events of a run that are not waits. -/
def untimed (run : Run ε α State) : List Event :=
  run.events.filter fun event => event.seconds?.isNone

theorem commands_eq_untimed (run : Run ε α State) :
    run.commands = run.untimed.filterMap Event.command? := by
  rw [commands, untimed, List.filterMap_filter]
  refine congrArg (run.events.filterMap ·) (funext fun event => ?_)
  cases event <;> rfl

theorem questions_eq_untimed (run : Run ε α State) :
    run.questions = run.untimed.filterMap Event.question? := by
  rw [questions, untimed, List.filterMap_filter]
  refine congrArg (run.events.filterMap ·) (funext fun event => ?_)
  cases event <;> rfl

/-- The same commands and questions in the same order, and the same end. -/
structure AgreesWith (run : Run ε α State) (other : Run ε α Other) : Prop where
  commands : run.commands = other.commands
  questions : run.questions = other.questions
  ending : run.ending = other.ending

/-- The run failed after some of the commands and questions of another one. -/
structure StopsWithin (run : Run ε α State) (other : Run ε α Other)
    (error : ε) : Prop where
  commands : run.commands <+: other.commands
  questions : run.questions <+: other.questions
  ending : run.ending = .failed error

/-- The runs have the same events, or the first one stops early and is excused
by what happened before. -/
def Parallels (excused : List Event → ε → Prop) (past : List Event)
    (run : Run ε α State) (other : Run ε α Other) : Prop :=
  (run.untimed = other.untimed ∧ run.ending = other.ending) ∨
    ∃ error, run.ending = .failed error ∧
      excused (past ++ run.events) error ∧ run.untimed <+: other.untimed

section Parallels

variable {excused : List Event → ε → Prop} {past : List Event}
  {run : Run ε α State} {other : Run ε α Other}

theorem untimed_after {event : Event} (untimed : event.seconds? = none) :
    (run.after event).untimed = event :: run.untimed := by
  simp [Run.untimed, untimed]

theorem untimed_after_wait (seconds : Float) :
    (run.after (.waited seconds)).untimed = run.untimed := by
  simp [Run.untimed, Event.seconds?]

theorem Parallels.after {event : Event} (untimed : event.seconds? = none)
    (parallels : Parallels excused (past ++ [event]) run other) :
    Parallels excused past (run.after event) (other.after event) := by
  rw [Parallels, untimed_after untimed, untimed_after untimed]
  rcases parallels with ⟨same, ending⟩ | ⟨error, failed, excuse, isPrefix⟩
  · left
    exact ⟨congrArg (event :: ·) same, ending⟩
  · right
    refine ⟨error, failed, ?_, List.cons_prefix_cons.mpr ⟨rfl, isPrefix⟩⟩
    rwa [List.append_assoc, List.singleton_append] at excuse

theorem Parallels.after_wait {seconds : Float}
    (parallels : Parallels excused (past ++ [.waited seconds]) run other) :
    Parallels excused past (run.after (.waited seconds)) other := by
  rw [Parallels, untimed_after_wait]
  rcases parallels with ⟨same, ending⟩ | ⟨error, failed, excuse, isPrefix⟩
  · left
    exact ⟨same, ending⟩
  · right
    refine ⟨error, failed, ?_, isPrefix⟩
    rwa [List.append_assoc, List.singleton_append] at excuse

theorem Parallels.after_waits {seconds : Float}
    (parallels : Parallels excused (past ++ [.waited seconds]) run other) :
    Parallels excused past (run.after (.waited seconds))
      (other.after (.waited seconds)) := by
  have waited := parallels.after_wait
  have untimed : (other.after (.waited seconds)).untimed = other.untimed :=
    untimed_after_wait seconds
  rwa [Parallels, ← untimed] at waited

theorem Parallels.agrees_or_stops (parallels : Parallels excused [] run other) :
    run.AgreesWith other ∨
      ∃ error, run.StopsWithin other error ∧ excused run.events error := by
  rcases parallels with ⟨same, ending⟩ | ⟨error, failed, excuse, isPrefix⟩
  · left
    constructor
    · rw [commands_eq_untimed, same, commands_eq_untimed]
    · rw [questions_eq_untimed, same, questions_eq_untimed]
    · exact ending
  · right
    refine ⟨error, ⟨?_, ?_, failed⟩, excuse⟩
    · rw [commands_eq_untimed, commands_eq_untimed]
      exact isPrefix.filterMap _
    · rw [questions_eq_untimed, questions_eq_untimed]
      exact isPrefix.filterMap _

end Parallels

end Run

/-! ### Sessions that run alongside -/

namespace Session

variable {ε α β State Other : Type}

/-- After the events that are past, the first session does what the second one
does.  It may wait in addition, and it may stop with an error that is excused. -/
inductive Alongside (excused : List Event → ε → Prop) :
    List Event → Session ε α → Session ε α → Prop where
  | done {past : List Event} {result : Except ε α} :
      Alongside excused past (.done result) (.done result)
  | stops {past : List Event} {error : ε} {other : Session ε α} :
      excused past error →
      Alongside excused past (.done (.error error)) other
  | send {past : List Event} {command : Command}
      {next other : Answer → Session ε α} :
      (∀ answer, Alongside excused (past ++ [.sent command answer])
        (next answer) (other answer)) →
      Alongside excused past (.send command next) (.send command other)
  | ask {past : List Event} {panes : List String}
      {next other : Value → Session ε α} :
      (∀ answer, Alongside excused (past ++ [.asked panes]) (next answer)
        (other answer)) →
      Alongside excused past (.ask panes next) (.ask panes other)
  | note {past : List Event} {virtualId realId : String}
      {next other : Session ε α} :
      Alongside excused (past ++ [.noted virtualId realId]) next other →
      Alongside excused past (.note virtualId realId next)
        (.note virtualId realId other)
  | wait {past : List Event} {seconds : Float} {next other : Session ε α} :
      Alongside excused (past ++ [.waited seconds]) next other →
      Alongside excused past (.wait seconds next) other
  | waits {past : List Event} {seconds : Float} {next other : Session ε α} :
      Alongside excused (past ++ [.waited seconds]) next other →
      Alongside excused past (.wait seconds next) (.wait seconds other)

namespace Alongside

variable {excused : List Event → ε → Prop} {past : List Event}
  {session other : Session ε α}

theorem refl (session : Session ε α) (past : List Event) :
    Alongside excused past session session := by
  induction session generalizing past with
  | done result => exact .done
  | send command next induction => exact .send fun answer => induction _ _
  | ask panes next induction => exact .ask fun answer => induction _ _
  | wait seconds next induction => exact .waits (induction _)
  | note virtualId realId next induction => exact .note (induction _)

theorem bind {continue_ otherContinue : α → Session ε β}
    (first : Alongside excused past session other)
    (rest : ∀ past value,
      Alongside excused past (continue_ value) (otherContinue value)) :
    Alongside excused past (session >>= continue_) (other >>= otherContinue) := by
  induction first with
  | @done past result =>
      cases result with
      | ok value => exact rest past value
      | error error => exact .done
  | stops excuse => exact .stops excuse
  | send _ induction => exact .send induction
  | ask _ induction => exact .ask induction
  | note _ induction => exact .note induction
  | wait _ induction => exact .wait induction
  | waits _ induction => exact .waits induction

/-- Against servers that answer alike the sessions have runs that agree, unless
the first one is stopped. -/
theorem run {server : Server State} {otherServer : Server Other}
    {state : State} {otherState : Other}
    (alongside : Alongside excused past session other)
    (alike : server.AnswersLike otherServer state otherState)
    (consent : List String → Option Value) :
    Run.Parallels excused past (session.run server consent state)
      (other.run otherServer consent otherState) := by
  induction alongside generalizing state otherState with
  | @done past result =>
      left
      cases result with
      | ok value => exact ⟨rfl, rfl⟩
      | error error => exact ⟨rfl, rfl⟩
  | @stops past error other excuse =>
      right
      refine ⟨error, rfl, ?_, List.nil_prefix⟩
      rwa [run_error, List.append_nil]
  | @send past command next other _ induction =>
      obtain ⟨sameAnswer, alikeAfter⟩ := alike.step command
      rw [run_send, run_send, ← sameAnswer]
      exact (induction _ alikeAfter).after rfl
  | @ask past panes next other _ induction =>
      cases answered : consent panes with
      | none =>
          rw [run_ask_unanswered _ _ answered, run_ask_unanswered _ _ answered]
          left
          exact ⟨rfl, rfl⟩
      | some answer =>
          rw [run_ask_answered _ _ answered, run_ask_answered _ _ answered]
          exact (induction answer alike).after rfl
  | note _ induction => exact (induction alike).after rfl
  | wait _ induction => exact (induction alike).after_wait
  | waits _ induction => exact (induction alike).after_waits

end Alongside

end Session

end PaneLayout
