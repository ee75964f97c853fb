import PaneLayout.Entries
import PaneLayout.Text.Quoted

/-!
# Pane maps

A pane map relates the ids of a plan to the real panes of one replay.  An id that
is not recorded itself is found through its nearest recorded ancestor, else
through the first recorded descendant, because a step may name the root of a
subtree whose pane was recorded under a finer id, or the reverse.  What is found
is recorded under the id that was asked for.

An empty text stands for no pane.
-/

namespace PaneLayout

/-- Real panes under ids of a plan, in the order of recording. -/
structure PaneMap where
  entries : Entries String
deriving Repr, BEq, DecidableEq, Inhabited

namespace PaneMap

/-- Nothing recorded. -/
def empty : PaneMap := ⟨[]⟩

/-- Records the pane of an id. -/
def register (panes : PaneMap) (virtualId realId : String) : PaneMap :=
  ⟨panes.entries.put virtualId realId⟩

/-- The pane recorded under exactly this id. -/
def get? (panes : PaneMap) (virtualId : String) : Option String :=
  (panes.entries.get? virtualId).filter (· ≠ "")

/-- A pane is recorded under exactly this id. -/
def has (panes : PaneMap) (virtualId : String) : Bool :=
  (panes.get? virtualId).isSome

def size (panes : PaneMap) : Nat :=
  panes.entries.length

/-- The parts of an id that end just before a dot, the shortest first. -/
def partsBeforeDots : List Char → List (List Char)
  | [] => []
  | c :: rest =>
      let longer := (partsBeforeDots rest).map (c :: ·)
      if c = '.' then [] :: longer else longer

/-- The ancestors of an id, the nearest first. -/
def ancestors (virtualId : String) : List String :=
  (partsBeforeDots virtualId.toList).reverse.map String.ofList

/-- The first id belongs to a node above that of the second. -/
def isAncestor (ancestor virtualId : String) : Bool :=
  (ancestor.toList ++ ['.']).isPrefixOf virtualId.toList

/-- The pane of the nearest ancestor that has one. -/
def ofAncestor? (panes : PaneMap) (virtualId : String) : Option String :=
  (ancestors virtualId).findSome? panes.get?

/-- The pane of the descendant that was recorded first. -/
def ofDescendant? (panes : PaneMap) (virtualId : String) : Option String :=
  (panes.entries.find? fun (id, realId) =>
    isAncestor virtualId id && realId ≠ "").map Prod.snd

/-- The pane of an id, of its nearest ancestor, or of its first descendant. -/
def lookup (panes : PaneMap) (virtualId : String) : Option String :=
  panes.get? virtualId <|> panes.ofAncestor? virtualId <|>
    panes.ofDescendant? virtualId

/-- The pane of an id, and the map in which it is recorded under that id. -/
def resolve (panes : PaneMap) (virtualId : String) : Option String × PaneMap :=
  match panes.lookup virtualId with
  | some realId => (some realId, panes.register virtualId realId)
  | none => (none, panes)

/-- The entries of a map in a message. -/
def display (panes : PaneMap) : String :=
  "PaneMap(\x7b" ++ ", ".intercalate (panes.entries.map fun (id, realId) =>
    quoted id ++ ": " ++ quoted realId) ++ "\x7d)"

end PaneMap

end PaneLayout
