import PaneLayout.Entries
import PaneLayout.Fault
import PaneLayout.Text.Quoted
import PaneLayout.Value

/-!
# Failures

A failure is an error that the program explains: a stable code, a sentence, and
where it happened.  The place is a path into the preset, the id of a step or the
id of a pane.  Details carry the values that the sentence is about.
-/

namespace PaneLayout

/-- An explained error. -/
structure Failure where
  /-- The stage that failed. -/
  stage : String
  code : String
  message : String
  /-- The label of the preset, when it is known. -/
  source : Option String := none
  path : Option String := none
  details : Entries Value := []
deriving Inhabited, BEq, Repr

namespace Failure

/-- Code, sentence and place in one line. -/
def text (failure : Failure) : String :=
  let place := match failure.path with
    | some path => if path = "" then "" else " (" ++ path ++ ")"
    | none => ""
  "[" ++ failure.code ++ "] " ++ failure.message ++ place

/-- Stage, code and place, as in a listing of errors. -/
def display (failure : Failure) : String :=
  let path := match failure.path with
    | some path => quoted path
    | none => "None"
  "CoreError(kind=" ++ quoted failure.stage ++ ", code=" ++
    quoted failure.code ++ ", path=" ++ path ++ ")"

/-- The record of a failure; what is unknown or empty is left out. -/
def record (failure : Failure) : Entries Value :=
  [("kind", .text failure.stage), ("code", .text failure.code),
    ("message", .text failure.message)] ++
  (failure.source.map fun source => ("source", Value.text source)).toList ++
  (failure.path.map fun path => ("path", Value.text path)).toList ++
  (if failure.details.isEmpty then [] else
    [("details", Value.mapping (failure.details.map fun (key, value) =>
      (.text key, value)))])

end Failure

/-- Why a stage stopped: it can explain what is wrong, or a fault struck. -/
inductive Problem where
  | failure (failure : Failure)
  | fault (cause : Fault)
deriving Inhabited, BEq, Repr

namespace Problem

/-- A computation whose faults are problems. -/
def ofFault {α : Type} : Except Fault α → Except Problem α
  | .ok value => .ok value
  | .error cause => .error (.fault cause)

instance : MonadLift (Except Fault) (Except Problem) where
  monadLift := ofFault

end Problem

end PaneLayout
