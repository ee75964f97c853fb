import PaneLayout.Server

/-!
# Scripted windows

A window held in memory that answers commands as a server would, apart from the
oddities that its script asks for: it may fail at a given command, make several
panes at once or none, put them in front, or print its listing in its own way.
-/

namespace PaneLayout

/-- The oddities of a window. -/
structure WindowScript where
  isDryRun : Bool := false
  /-- The name of the commands that fail. -/
  failOn : Option String := none
  /-- The position, from zero, of the command that fails. -/
  failAt : Option Int := none
  error : CallError := .other "the command failed"
  newWindowOutput : Option String := none
  panesPerSplit : Nat := 1
  /-- New panes are listed before the others. -/
  listsNewFirst : Bool := false
  listSeparator : String := "\n"
  currentPane : String := "%0"
  size : String := "120"

/-- The panes of a scripted window and what has been used up. -/
structure ScriptedWindow where
  panes : List String := ["%0"]
  nextNumber : Int := 1
  /-- How many commands have been received. -/
  received : Nat := 0
deriving Repr, BEq, DecidableEq, Inhabited

namespace ScriptedWindow

/-- The ids of as many new panes as asked for. -/
def freshPanes (window : ScriptedWindow) (count : Nat) : List String :=
  (List.range count).map fun (index : Nat) =>
    "%" ++ toString (window.nextNumber + index)

/-- The output of a command that does not fail, and the window after it. -/
def obey (script : WindowScript) (command : Command)
    (window : ScriptedWindow) : String × ScriptedWindow :=
  match command with
  | "new-window" :: _ =>
      let fresh := window.freshPanes 1
      let output := script.newWindowOutput.getD ("".intercalate fresh ++ "\n")
      (output, { window with
        panes := fresh, nextNumber := window.nextNumber + 1 })
  | "split-window" :: _ =>
      let fresh := window.freshPanes script.panesPerSplit
      let panes :=
        if script.listsNewFirst then
          fresh.reverse ++ window.panes
        else
          window.panes ++ fresh
      ("", { window with
        panes, nextNumber := window.nextNumber + script.panesPerSplit })
  | "list-panes" :: _ =>
      (script.listSeparator.intercalate window.panes, window)
  | "kill-pane" :: arguments =>
      let kept := (arguments.dropWhile (· ≠ "-t"))[1]?
      ("", { window with panes := window.panes.filter (some · = kept) })
  | "display-message" :: arguments =>
      if arguments.getLast? = some paneIdFormat then
        (script.currentPane, window)
      else
        (script.size, window)
  | _ => ("", window)

/-- The script makes a command fail. -/
def fails (script : WindowScript) (command : Command)
    (window : ScriptedWindow) : Bool :=
  (script.failOn.isSome && command.head? == script.failOn) ||
    script.failAt == some (window.received : Int)

/-- The server of a scripted window. -/
def server (script : WindowScript) : Server ScriptedWindow where
  step command window :=
    let counted := { window with received := window.received + 1 }
    if fails script command window then
      (.error script.error, counted)
    else
      let (output, next) := obey script command counted
      (.ok output, next)
  isDryRun := script.isDryRun

end ScriptedWindow

end PaneLayout
