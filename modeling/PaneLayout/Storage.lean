import PaneLayout.Json.Canonical
import PaneLayout.Path

/-!
# Files

What a program can see of a file system: files with their bytes, and
directories.  Text is read as UTF-8.
-/

namespace PaneLayout

/-- What lies at a path. -/
inductive Location where
  | missing
  /-- A step of the path before the last one leads to a file. -/
  | behindFile
  | directory
  | file (octets : List UInt8)
deriving Repr, BEq, DecidableEq, Inhabited

/-- Why a file could not be read. -/
inductive ReadError where
  | missing
  | isDirectory
  | notDirectory
deriving Repr, BEq, DecidableEq, Inhabited

namespace ReadError

/-- The error of reading a path, with its number. -/
def message (path : String) : ReadError → String
  | missing => "[Errno 2] No such file or directory: " ++ quoted path
  | isDirectory => "[Errno 21] Is a directory: " ++ quoted path
  | notDirectory => "[Errno 20] Not a directory: " ++ quoted path

end ReadError

namespace Location

/-- A file with a text. -/
def ofText (text : String) : Location :=
  .file text.toUTF8.toList

/-- Something lies there. -/
def isThere : Location → Bool
  | .missing | .behindFile => false
  | .directory | .file _ => true

/-- The text of a file.  The outer result fails when the bytes are no text. -/
def read : Location → Except Fault (Except ReadError String)
  | .missing => .ok (.error .missing)
  | .behindFile => .ok (.error .notDirectory)
  | .directory => .ok (.error .isDirectory)
  | .file octets => (Value.decodeText octets).map .ok

/-- Whether the directories of a path can be made where they are missing. -/
def makeDirectories : Location → Except Fault Unit
  | .missing | .directory => .ok ()
  | .behindFile => .error .pathThroughFile
  | .file _ => .error .fileInPlace

end Location

end PaneLayout
