import PaneLayout.Entries
import PaneLayout.Storage

/-!
# File trees

Files that are held in memory, each with the steps that lead to it from the
root.  The directories on the way to a file exist because the file does.
-/

namespace PaneLayout

/-- Files and directories by the steps that lead to them. -/
structure FileTree where
  /-- Where relative paths start. -/
  workingDirectory : List String
  locations : List (List String × Location)
deriving Repr

namespace FileTree

/-- What lies at the end of steps from the root, if all but the last one lead to
directories. -/
def locate (tree : FileTree) (steps : List String) : Location :=
  match tree.locations.find? fun (known, _) => known == steps with
  | some (_, location) => location
  | none =>
      if steps.isPrefixOf tree.workingDirectory ||
          tree.locations.any fun (known, _) => steps.isPrefixOf known then
        .directory
      else
        .missing

/-- Follows steps.  `reached` holds the steps so far, the last one first; every
one of them must lead to a directory before another is taken. -/
def follow (tree : FileTree) : List String → List String → Location
  | reached, [] => tree.locate reached.reverse
  | reached, step :: steps =>
      match tree.locate reached.reverse with
      | .directory =>
          tree.follow (if step = ".." then reached.tail else step :: reached)
            steps
      | .file _ => .behindFile
      | location => location

/-- The steps from the root at which a path starts. -/
def start (tree : FileTree) (path : Path) : List String :=
  if path.isAbsolute then [] else tree.workingDirectory

/-- What lies at a path. -/
def lookUp (tree : FileTree) (path : Path) : Location :=
  tree.follow (tree.start path).reverse path.steps

/-- The steps from the root that a path describes. -/
def resolve (tree : FileTree) (path : Path) : List String :=
  (path.steps.foldl
    (fun reached step => if step = ".." then reached.tail else step :: reached)
    (tree.start path).reverse).reverse

/-- The tree with something at a path. -/
def put (tree : FileTree) (path : Path) (location : Location) : FileTree :=
  let steps := tree.resolve path
  { tree with locations :=
      (steps, location) :: tree.locations.filter fun (known, _) => known != steps }

end FileTree

end PaneLayout
