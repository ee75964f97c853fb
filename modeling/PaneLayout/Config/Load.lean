import PaneLayout.Config.Valid
import PaneLayout.Storage
import PaneLayout.Yaml.Document

/-!
# Reading a configuration file

A missing or empty file is an empty configuration.  Everything else that is
wrong with a file is reported as a warning, and what can be used is kept.

What reads the text of a file, and what validates the entries found in it, is
given from outside.
-/

namespace PaneLayout

/-- Something in a configuration file that was not used. -/
structure ConfigWarning where
  file : String
  /-- The place in the file, or `(file)` for the file as a whole. -/
  field : String
  message : String
  /-- The value found there; null if there is none. -/
  value : Value := .null
deriving Repr, BEq, Inhabited

namespace ConfigWarning

/-- A warning about a file as a whole. -/
def ofFile (file message : String) (value : Value) : ConfigWarning :=
  ⟨file, "(file)", message, value⟩

/-- The warning about an issue. -/
def ofIssue (file : String) (issue : Issue) : ConfigWarning :=
  ⟨file, issue.place, issue.message, issue.value⟩

end ConfigWarning

/-- The word for the kind of a value. -/
def Value.kindName : Value → String
  | .null => "NoneType"
  | .bool _ => "bool"
  | .int _ => "int"
  | .float _ => "float"
  | .text _ => "str"
  | .bytes _ => "bytes"
  | .date _ => "date"
  | .timestamp _ => "datetime"
  | .list _ => "list"
  | .tuple _ => "tuple"
  | .set _ => "set"
  | .mapping _ => "dict"

namespace Config

/-- Why there is no value for a text. -/
inductive Unread where
  /-- The text is no document, for a reason. -/
  | malformed (reason : String)
  /-- Something in the document cannot be made. -/
  | stopped (cause : Fault)
deriving Repr, BEq, DecidableEq, Inhabited

/-- What configuration files are read with. -/
structure Reader where
  /-- The value that a text describes. -/
  document : String → Except Unread Value
  validate : Validation

namespace Reader

/-- The result of reading a document. -/
def ofDocument : Except Yaml.Trouble Value → Except Unread Value
  | .ok value => .ok value
  | .error (.defect cause) => .error (.malformed cause.message)
  | .error (.fault cause) => .error (.stopped cause)

/-- The reader that the commands use. -/
def standard : Reader where
  document text := ofDocument (Yaml.readDocument text)
  validate := ofEntries

end Reader

/-- The configuration that a document describes, with warnings. -/
def ofDocument (validate : Validation) (file : String) (value : Value) :
    Config × List ConfigWarning :=
  match value with
  | .null => ({}, [])
  | .mapping entries =>
      let (config, issues) := recover validate entries
      (config, issues.map (ConfigWarning.ofIssue file))
  | value =>
      ({}, [.ofFile file "Top-level YAML value must be a mapping"
        (.text value.kindName)])

/-- Reads a configuration file.  Bytes that are no text, and what cannot be made
of a document, are faults. -/
def load (reader : Reader) (file : String) (location : Location) :
    Except Fault (Config × List ConfigWarning) := do
  if !location.isThere then
    return ({}, [])
  match ← location.read with
  | .error error =>
      return ({}, [.ofFile file ("File read error: " ++ error.message file)
        .null])
  | .ok text =>
      match reader.document text with
      | .ok value => return ofDocument reader.validate file value
      | .error (.malformed reason) =>
          return ({}, [.ofFile file ("YAML parse error: " ++ reason) .null])
      | .error (.stopped cause) => throw cause

end Config

end PaneLayout
