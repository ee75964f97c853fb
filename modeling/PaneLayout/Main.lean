import PaneLayout.CommandLine.Program
import PaneLayout.Server.Client

/-!
# The executable

The executable looks at the files that a command needs, carries the command out,
and then makes the directories, writes the files and prints the texts that the
transcript holds.  It starts no other programs, so the client of the window
server counts as absent.
-/

namespace PaneLayout.Executable

/-- The variables of the environment that matter. -/
def variableNames : List String :=
  ["HOME", "XDG_CONFIG_HOME", "TMUX", Surroundings.paneVariable]

def readEnvironment : IO Environment :=
  variableNames.filterMapM fun name => do
    return (← IO.getEnv name).map fun value => (name, value)

/-- What lies at a path.  Reading a directory fails with the error number 21. -/
def locate (path : Path) : IO (Path × Location) := do
  try
    let octets ← IO.FS.readBinFile path.text
    return (path, .file octets.toList)
  catch
    | .noFileOrDirectory _ _ _ => return (path, .missing)
    | .inappropriateType _ code _ =>
        return (path, if code = 21 then .directory else .behindFile)
    | error => throw error

/-- The surroundings in which a command is carried out. -/
def surroundingsOf (invocation : Invocation) : IO Surroundings := do
  let unseen : Surroundings := {
    environment := ← readEnvironment
    lookUp := fun _ => .missing
    input := [] }
  let known ← (Program.paths unseen invocation).mapM locate
  return { unseen with
    lookUp := fun path => (known.lookup path).getD .missing }

/-- Does what a transcript says. -/
def follow (transcript : Transcript) : IO Unit := do
  for directory in transcript.directories do
    IO.FS.createDirAll directory.text
  for (path, text) in transcript.written do
    IO.FS.writeFile path.text text
  IO.print transcript.output
  IO.eprint transcript.errorOutput

end PaneLayout.Executable

open PaneLayout in
/-- Carries out a command line. -/
def main (arguments : List String) : IO UInt32 := do
  let invocation := Invocation.ofArguments arguments
  let surroundings ← Executable.surroundingsOf invocation
  let (ending, transcript) :=
    (Program.perform surroundings Client.absent () invocation).run
  Executable.follow transcript
  match ending with
  | .exited _ => pure ()
  | .crashed cause =>
      IO.eprintln (programName ++ ": " ++ cause.explanation)
  return ending.code.toUInt32
