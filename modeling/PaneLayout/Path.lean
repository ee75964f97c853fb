import PaneLayout.Entries
import PaneLayout.Text.Blank

/-!
# Paths of files

A path is written with as few slashes as possible and without steps that stay
where they are.  The configuration lies in the directory that the environment
names, or else below the home directory.
-/

namespace PaneLayout

/-- A path in its parts. -/
structure Path where
  /-- Slashes at the beginning: none for a relative path, else one, or two where
  exactly two are written. -/
  root : Nat
  steps : List String
deriving Repr, BEq, DecidableEq, Inhabited

namespace Path

/-- The path that a text describes. -/
def ofText (text : String) : Path :=
  let slashes := (text.toList.takeWhile (· == '/')).length
  let pieces := (splitWhere (· == '/') text.toList).map String.ofList
  ⟨if slashes ≤ 2 then slashes else 1,
    pieces.filter fun piece => piece != "" && piece != "."⟩

/-- The text of a path. -/
def text (path : Path) : String :=
  if path.root = 0 ∧ path.steps = [] then
    "."
  else
    String.ofList (List.replicate path.root '/') ++ "/".intercalate path.steps

/-- The path starts at the root. -/
def isAbsolute (path : Path) : Bool :=
  path.root != 0

/-- A path read from another one. -/
def join (base path : Path) : Path :=
  if path.isAbsolute then path else ⟨base.root, base.steps ++ path.steps⟩

/-- The path with more steps. -/
def below (path : Path) (steps : List String) : Path :=
  ⟨path.root, path.steps ++ steps⟩

/-- The directory that holds what the path leads to. -/
def parent (path : Path) : Path :=
  ⟨path.root, path.steps.dropLast⟩

end Path

/-- The name of the program. -/
def programName : String := "panecraft"

/-- The values of the variables of the environment. -/
abbrev Environment := Entries String

namespace Environment

/-- The home directory. -/
def home (environment : Environment) : Path :=
  match Entries.get? "HOME" environment with
  | some home =>
      if home.toList.all (· == '/') then ⟨1, []⟩ else Path.ofText home
  | none => ⟨1, []⟩

/-- The directory of configurations: the one that a variable names, if it is an
absolute path, else `.config` below the home directory. -/
def configHome (environment : Environment) : Path :=
  let usual := environment.home.below [".config"]
  match Entries.get? "XDG_CONFIG_HOME" environment with
  | none => usual
  | some value =>
      let path := Path.ofText value
      if path.isAbsolute then path else usual

/-- The directory of the program's configuration. -/
def configDirectory (environment : Environment) : Path :=
  environment.configHome.below [programName]

/-- The file of the program's configuration. -/
def configFile (environment : Environment) : Path :=
  environment.configDirectory.below ["config.yaml"]

end Environment

end PaneLayout
