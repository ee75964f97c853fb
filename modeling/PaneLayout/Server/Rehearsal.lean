import PaneLayout.Server
import PaneLayout.Text.Digit

/-!
# Rehearsals

A rehearsal answers commands without a server.  It keeps the list of the panes
that the window would have, and hands out pane numbers in increasing order,
starting above the numbers of the panes that it was given.  When the next number
has become too long to be written, no more panes can be made.
-/

namespace PaneLayout

structure Rehearsal where
  panes : List String
  /-- The number of the next pane. -/
  nextNumber : Nat
deriving Repr, BEq, DecidableEq, Inhabited

namespace Rehearsal

/-- The number in a pane id: digits after any number of percent signs. -/
def paneNumber (paneId : String) : Except Fault (Option Nat) := do
  let digits := paneId.toList.dropWhile (· = '%')
  if !digits.isEmpty && digits.all looksLikeDigit then
    return some (← readDigits digits)
  else
    return none

/-- A rehearsal in a window with the given panes, or with the first one. -/
def start (panes : List String) : Except Fault Rehearsal := do
  let panes := if panes.isEmpty then [placeholderPane] else panes
  let numbers ← panes.mapM paneNumber
  return {
    panes
    nextNumber := numbers.foldl (fun next number =>
      max next ((number.map (· + 1)).getD 0)) 0 }

/-- A rehearsal in the window of a pane, if it is known. -/
def inPane (pane : Option String) : Except Fault Rehearsal :=
  match pane with
  | none | some "" => start []
  | some pane => start [pane]

/-- The id of the next pane, unless its number has too many digits. -/
def nextPane (rehearsal : Rehearsal) : Except Fault String := do
  return "%" ++ (← wholeText rehearsal.nextNumber)

/-- The pane that a command to close the others keeps. -/
def keptPane (rehearsal : Rehearsal) (arguments : List String) :
    Except Fault String :=
  let kept :=
    if arguments.contains "-t" then
      (arguments.dropWhile (· ≠ "-t"))[1]?
    else
      rehearsal.panes[0]?
  match kept with
  | some pane => .ok pane
  | none => .error .missingElement

/-- The output of a command, and the rehearsal after it. -/
def step (command : Command) (rehearsal : Rehearsal) :
    Except Fault String × Rehearsal :=
  match command with
  | [] => (.ok "", rehearsal)
  | name :: arguments =>
      if name = "new-window" then
        match rehearsal.nextPane with
        | .ok pane => (.ok pane, ⟨[pane], rehearsal.nextNumber + 1⟩)
        | .error fault => (.error fault, rehearsal)
      else if name = "split-window" then
        match rehearsal.nextPane with
        | .ok pane =>
            (.ok "", ⟨rehearsal.panes ++ [pane], rehearsal.nextNumber + 1⟩)
        | .error fault => (.error fault, rehearsal)
      else if name = "list-panes" then
        (.ok ("\n".intercalate rehearsal.panes), rehearsal)
      else if name = "kill-pane" ∧ command.contains "-a" then
        match rehearsal.keptPane command with
        | .ok kept =>
            (.ok "", { rehearsal with
              panes := rehearsal.panes.filter (· = kept) })
        | .error fault => (.error fault, rehearsal)
      else if name = "display-message" ∧
          arguments.getLast?.getD name = paneIdFormat then
        (.ok (rehearsal.panes.head?.getD ""), rehearsal)
      else
        (.ok "", rehearsal)

/-- How a rehearsal words what keeps it from answering. -/
def reason : Fault → String
  | .missingElement => "list index out of range"
  | .numeralTooLong =>
      "Exceeds the limit (" ++ toString digitLimit ++
        " digits) for integer string conversion; " ++
        "use sys.set_int_max_str_digits() to increase the limit"
  | fault => fault.explanation

/-- The server that a rehearsal stands in for. -/
def server : Server Rehearsal where
  step command rehearsal :=
    match rehearsal.step command with
    | (.ok output, next) => (.ok output, next)
    | (.error fault, next) => (.error (.other (reason fault)), next)
  isDryRun := true

end Rehearsal

end PaneLayout
