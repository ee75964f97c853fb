/-!
# Window modes

A layout is applied either in a fresh window or in the active one, whose other
panes are closed first.
-/

namespace PaneLayout

inductive WindowMode where
  | newWindow
  | currentWindow
deriving Repr, BEq, DecidableEq, Inhabited

namespace WindowMode

def name : WindowMode → String
  | .newWindow => "new-window"
  | .currentWindow => "current-window"

def ofName? (name : String) : Option WindowMode :=
  if name = "new-window" then some .newWindow
  else if name = "current-window" then some .currentWindow
  else none

/-- The names of all modes. -/
def names : List String :=
  ["new-window", "current-window"]

end WindowMode

end PaneLayout
