import PaneLayout.Json.Text
import PaneLayout.Ratio.Mixed
import PaneLayout.Server
import PaneLayout.Text.ShellWord

/-!
# The client of the window server

Commands reach a live server through its client, a separate program.  A run of
the client ends with output, with an exit code, after too long a time, or not at
all because there is no client.
-/

namespace PaneLayout.Client

/-- The program that talks to the server. -/
def program : String := "tmux"

/-- A command as a line for a shell. -/
def commandLine (command : Command) : String :=
  shellLine (program :: command)

/-- How a run of the client ended. -/
inductive Outcome where
  | finished (output : String)
  | exited (code : Int) (errorOutput : Option String)
  | timedOut
  | notFound
deriving Repr, BEq, DecidableEq

/-- Seconds as they were given. -/
def secondsText : Number → Except Fault String
  | .whole value => wholeText value
  | .double value => .ok (doubleText value)

/-- The failure of a run. -/
def failure (code message : String) (details : Entries Value) : Failure where
  stage := "execution"
  code
  message
  details

/-- The answer to a command from how the run of the client ended.  Output loses
the line feeds at its end. -/
def answer (command : Command) (timeout : Number) :
    Outcome → Except Problem String
  | .finished output =>
      .ok (String.ofList (dropEndWhile (· = '\n') output.toList))
  | .exited code errorOutput =>
      .error <| .failure <| failure "TMUX_COMMAND_FAILED"
        "Failed to execute tmux command"
        [("command", .text (commandLine command)),
          ("exit_code", .int code),
          ("stderr", .text (trimmed (errorOutput.getD "")))]
  | .timedOut => do
      let seconds ← secondsText timeout
      .error <| .failure <| failure "TMUX_COMMAND_FAILED"
        ("tmux command timed out after " ++ seconds ++ "s")
        [("command", .text (commandLine command))]
  | .notFound =>
      .error <| .failure <| failure "TMUX_NOT_FOUND"
        "tmux is required but was not found on PATH"
        [("command", .text (commandLine command))]

/-- The server of a machine without the client: every command fails. -/
def absent : Server Unit where
  step command _ :=
    match answer command (.whole 10) .notFound with
    | .ok output => (.ok output, ())
    | .error (.failure failure) => (.error (.failure failure), ())
    | .error (.fault _) => (.error (.other ""), ())
  isDryRun := false

end PaneLayout.Client
