import PaneLayout.Server

/-!
# Sessions

A session is what a program intends to do with a window server: commands to
send, a question to ask, waits, and a result in the end.  How it goes on after a
command or a question depends on the answer, so a session is a tree that
branches at every answer.  It is data, and nothing is sent before it is run.

Running a session against a server yields the events in order, the way it ended,
and the state in which it leaves the server.
-/

namespace PaneLayout

/-- A program that talks to a window server and ends in a value or an error. -/
inductive Session (ε α : Type) where
  | done (result : Except ε α)
  /-- Sends a command and goes on with its answer. -/
  | send (command : Command) (next : Answer → Session ε α)
  /-- Asks whether some panes may be closed. -/
  | ask (panes : List String) (next : Value → Session ε α)
  /-- Waits for some seconds. -/
  | wait (seconds : Float) (next : Session ε α)
  /-- Notes that a real pane now stands for an id of the plan. -/
  | note (virtualId realId : String) (next : Session ε α)

namespace Session

variable {ε α β State : Type}

/-- A session followed by another one that depends on its value. -/
def bind : Session ε α → (α → Session ε β) → Session ε β
  | .done (.ok value), continue_ => continue_ value
  | .done (.error error), _ => .done (.error error)
  | .send command next, continue_ =>
      .send command fun answer => bind (next answer) continue_
  | .ask panes next, continue_ =>
      .ask panes fun answer => bind (next answer) continue_
  | .wait seconds next, continue_ => .wait seconds (bind next continue_)
  | .note virtualId realId next, continue_ =>
      .note virtualId realId (bind next continue_)

instance : Monad (Session ε) where
  pure value := .done (.ok value)
  bind := bind

instance : MonadExceptOf ε (Session ε) where
  throw error := .done (.error error)
  tryCatch session handle :=
    match session with
    | .done (.error error) => handle error
    | session => session

/-- A computation without effects as a session. -/
def ofExcept (result : Except ε α) : Session ε α :=
  .done result

end Session

/-- Something that happened while a session ran. -/
inductive Event where
  | sent (command : Command) (answer : Answer)
  | asked (panes : List String)
  | waited (seconds : Float)
  | noted (virtualId realId : String)
deriving Repr

namespace Event

def command? : Event → Option Command
  | .sent command _ => some command
  | _ => none

def question? : Event → Option (List String)
  | .asked panes => some panes
  | _ => none

def seconds? : Event → Option Float
  | .waited seconds => some seconds
  | _ => none

end Event

/-- How a run ended. -/
inductive Ending (ε α : Type) where
  | returned (value : α)
  | failed (error : ε)
  /-- A question got no answer. -/
  | unanswered
deriving Repr, BEq

/-- The events of a run, its end, and the state of the server after it. -/
structure Run (ε α State : Type) where
  events : List Event
  ending : Ending ε α
  state : State

namespace Run

variable {ε α State : Type}

/-- The commands that were sent, in order. -/
def commands (run : Run ε α State) : List Command :=
  run.events.filterMap Event.command?

/-- The questions that were asked, in order. -/
def questions (run : Run ε α State) : List (List String) :=
  run.events.filterMap Event.question?

/-- The waits in seconds, in order. -/
def waits (run : Run ε α State) : List Float :=
  run.events.filterMap Event.seconds?

/-- A run with one more event before the others. -/
def after (event : Event) (run : Run ε α State) : Run ε α State :=
  { run with events := event :: run.events }

end Run

namespace Session

variable {ε α State : Type}

/-- Runs a session.  `consent` answers questions, or gives no answer. -/
def run (server : Server State) (consent : List String → Option Value) :
    Session ε α → State → Run ε α State
  | .done (.ok value), state => ⟨[], .returned value, state⟩
  | .done (.error error), state => ⟨[], .failed error, state⟩
  | .send command next, state =>
      let (answer, state) := server.step command state
      (run server consent (next answer) state).after (.sent command answer)
  | .ask panes next, state =>
      match consent panes with
      | none => ⟨[.asked panes], .unanswered, state⟩
      | some answer =>
          (run server consent (next answer) state).after (.asked panes)
  | .wait seconds next, state =>
      (run server consent next state).after (.waited seconds)
  | .note virtualId realId next, state =>
      (run server consent next state).after (.noted virtualId realId)

end Session

end PaneLayout
