import PaneLayout.Drawing.Markup
import PaneLayout.Drawing.Wrap
import PaneLayout.Failure
import PaneLayout.Server
import PaneLayout.Storage

/-!
# Jobs of the command line

A job prints text, sends commands to a window server, and may make directories
and write a file.  What it has done is recorded in a transcript.  A job ends by
itself, early with an exit code, or with a fault; the transcript then holds what
was done before.
-/

namespace PaneLayout

/-- What a job has done. -/
structure Transcript where
  output : String := ""
  errorOutput : String := ""
  /-- The commands that were sent to the window server. -/
  commands : List Command := []
  /-- Directories that are to exist. -/
  directories : List Path := []
  /-- The texts of written files. -/
  written : List (Path × String) := []
deriving Repr, BEq, DecidableEq, Inhabited

/-- Why a job ends early. -/
inductive Stop where
  | exit (code : Nat)
  | fault (cause : Fault)
deriving Repr, BEq, DecidableEq, Inhabited

/-- A job. -/
abbrev Job := ExceptT Stop (StateM Transcript)

namespace Job

variable {α : Type}

/-- Ends a job with an exit code. -/
def exit (code : Nat) : Job α :=
  throw (.exit code)

/-- A computation whose faults end the job. -/
def ofFault : Except Fault α → Job α
  | .ok value => pure value
  | .error cause => throw (.fault cause)

instance : MonadLift (Except Fault) Job := ⟨ofFault⟩

/-- Text that can be written, which is all but text with a surrogate. -/
def writable (text : String) : Except Fault String := do
  let _ ← encodeText text
  return text

/-- Writes text as it is. -/
def write (text : String) : Job Unit := do
  let text ← writable text
  modify fun transcript => { transcript with output := transcript.output ++ text }

/-- Text with an escape in the place of each surrogate. -/
def withoutSurrogates (text : String) : String :=
  String.join (text.toList.map fun c =>
    if isSurrogate c then codeEscape c else String.ofList [c])

/-- Writes text about an error. -/
def writeError (text : String) : Job Unit :=
  modify fun transcript =>
    { transcript with
      errorOutput := transcript.errorOutput ++ withoutSurrogates text }

/-- The width of the terminal. -/
def terminalWidth : Nat := 200

/-- Lines as text. -/
def linesText (lines : List (List Char)) : String :=
  String.ofList (lines.flatMap (· ++ ['\n']))

/-- The text that markup shows on a terminal. -/
def markupText (markup : String) : Except Fault String := do
  return linesText
    (Drawing.wrap terminalWidth .breakWords true (← Markup.shown markup))

/-- Prints markup. -/
def print (markup : String) : Job Unit := do
  write (← markupText markup)

/-- Prints markup about an error. -/
def printError (markup : String) : Job Unit := do
  writeError (← markupText markup)

/-- Records commands that were sent to the window server. -/
def recordCommands (commands : List Command) : Job Unit :=
  modify fun transcript =>
    { transcript with commands := transcript.commands ++ commands }

/-- Makes a directory and those above it. -/
def makeDirectory (path : Path) (location : Location) : Job Unit := do
  location.makeDirectories
  modify fun transcript =>
    { transcript with directories := transcript.directories ++ [path] }

/-- Writes a file. -/
def writeFile (path : Path) (text : String) : Job Unit :=
  modify fun transcript =>
    { transcript with written := transcript.written ++ [(path, text)] }

/-- Explains a failure and ends the job. -/
def fail (failure : Failure) : Job α := do
  if failure.code = "USER_CANCELLED" then
    printError ("[yellow]Aborted:[/] " ++ Markup.escape failure.message)
  else
    printError ("[red]Error:[/] " ++ Markup.escape failure.text)
    match failure.source with
    | none | some "" => pure ()
    | some source =>
        printError ("[dim]  in " ++ Markup.escape source ++ "[/]")
  exit 1

/-- A computation whose problems end the job. -/
def ofProblem : Except Problem α → Job α
  | .ok value => pure value
  | .error (.failure failure) => fail failure
  | .error (.fault cause) => throw (.fault cause)

end Job

/-- How a job ended. -/
inductive JobEnding where
  | exited (code : Nat)
  | crashed (cause : Fault)
deriving Repr, BEq, DecidableEq, Inhabited

namespace JobEnding

/-- The exit code of the program. -/
def code : JobEnding → Nat
  | .exited code => code
  | .crashed _ => 1

end JobEnding

/-- Carries out a job. -/
def Job.run (job : Job Unit) : JobEnding × Transcript :=
  match StateT.run (ExceptT.run job) {} with
  | (.ok (), transcript) => (.exited 0, transcript)
  | (.error (.exit code), transcript) => (.exited code, transcript)
  | (.error (.fault cause), transcript) => (.crashed cause, transcript)

end PaneLayout
