import PaneLayout.Failure
import PaneLayout.Text.Blank

/-!
# Window servers

A window server answers commands, each a list of words, and may change its state
with every command.  Some servers only pretend to carry commands out.
-/

namespace PaneLayout

/-- The words of a command after the name of the client. -/
abbrev Command := List String

/-- Why a command failed. -/
inductive CallError where
  /-- The server explains the error. -/
  | failure (failure : Failure)
  /-- Only a text is known. -/
  | other (reason : String)
deriving Repr, BEq, Inhabited

/-- What a command came to: its output or an error. -/
abbrev Answer := Except CallError String

/-- A server with states of the given type. -/
structure Server (State : Type) where
  /-- The answer to a command in a state, and the state after it. -/
  step : Command → State → Answer × State
  /-- Commands are only pretended to be carried out. -/
  isDryRun : Bool

/-- The word that asks for the id of a pane. -/
def paneIdFormat : String := "#\x7bpane_id\x7d"

/-- The pane that is assumed where none is known. -/
def placeholderPane : String := "%0"

/-- A pane id without the blanks around it; blank text means the placeholder. -/
def normalizePaneId (raw : String) : String :=
  if isBlankText raw then placeholderPane else trimmed raw

/-- The pane ids that a listing holds, one per line. -/
def listedPanes (output : String) : List String :=
  ((linesOf output).map trimmed).filter (· ≠ "")

end PaneLayout
