import PaneLayout.Text.Digit
import PaneLayout.Yaml.BlockScalar
import PaneLayout.Yaml.QuotedScalar

/-!
# Anchors, tags and directives

The parts of a document that say something about its nodes.  An anchor names a
node, a tag names its kind, and directives at the beginning of a document
introduce handles with which tags may begin.
-/

namespace PaneLayout.Yaml

/-- A tag as it is written: a handle, and what follows it. -/
structure TagName where
  handle : Option String
  suffix : String
deriving Repr, BEq, Inhabited

/-- A line of its own before a document. -/
inductive Directive where
  /-- The version of the language. -/
  | version (major : Nat)
  /-- Tags with the handle begin with the given text. -/
  | handle (name start : String)
  | other
deriving Repr, BEq, Inhabited

namespace Property

/-- The name of an anchor or an alias. -/
def readName (text : List Char) : Except Defect (String × List Char) :=
  let name := text.takeWhile isNameCharacter
  let rest := text.dropWhile isNameCharacter
  let canFollow := match rest with
    | [] => true
    | c :: _ => isSeparation c || "?:,]\x7d%@".toList.contains c ||
        c.toNat == 0x60
  if name.isEmpty || !canFollow then
    .error .malformedAnchor
  else
    .ok (String.ofList name, rest)

/-- A character that may stand in a tag without being escaped. -/
def isTagCharacter (c : Char) : Bool :=
  c.isAlphanum || "-;/?:@&=+$,_.!~*'()[]".toList.contains c

/-- The bytes that the escapes at the beginning of a text stand for. -/
def escapedBytes : List Char → Except Defect (List UInt8 × List Char)
  | '%' :: high :: low :: rest => do
      let some high := hexValue? high | throw .malformedTag
      let some low := hexValue? low | throw .malformedTag
      let (octets, rest) ← escapedBytes rest
      pure (UInt8.ofNat (high * 16 + low) :: octets, rest)
  | '%' :: _ => throw .malformedTag
  | rest => pure ([], rest)

/-- Reads the text of a tag, in which bytes may be escaped.  A run of escapes
must be UTF-8 by itself.  The first argument bounds the number of pieces. -/
def readUriFrom : Nat → List Char → List Char →
    Except Defect (List Char × List Char)
  | 0, read, rest => .ok (read, rest)
  | fuel + 1, read, text =>
      let plain := text.takeWhile isTagCharacter
      match text.dropWhile isTagCharacter with
      | '%' :: rest => do
          let (octets, rest) ← escapedBytes ('%' :: rest)
          let some decoded := String.fromUTF8? (ByteArray.mk octets.toArray)
            | throw .malformedTag
          readUriFrom fuel (read ++ plain ++ decoded.toList) rest
      | rest => .ok (read ++ plain, rest)

/-- Reads the text of a tag, which is not empty. -/
def readUri (text : List Char) : Except Defect (String × List Char) := do
  let (read, rest) ← readUriFrom (text.length + 1) [] text
  if read.isEmpty then
    throw .malformedTag
  pure (String.ofList read, rest)

/-- Reads a handle: an exclamation mark, or a name between two of them. -/
def readHandle : List Char → Except Defect (String × List Char)
  | '!' :: ' ' :: rest => .ok ("!", ' ' :: rest)
  | '!' :: text =>
      match text.dropWhile isNameCharacter with
      | '!' :: rest =>
          .ok ("!" ++ String.ofList (text.takeWhile isNameCharacter) ++ "!", rest)
      | _ => .error .malformedTag
  | _ => .error .malformedTag

/-- The word at the beginning of a text contains an exclamation mark. -/
def wordHasHandle (text : List Char) : Bool :=
  (text.takeWhile fun c => !(c == ' ' || isBreak c)).contains '!'

/-- Reads a tag after its first exclamation mark. -/
def readTagName (text : List Char) : Except Defect (TagName × List Char) :=
  match text with
  | '<' :: text => do
      let (suffix, rest) ← readUri text
      match rest with
      | '>' :: rest => pure (⟨none, suffix⟩, rest)
      | _ => throw .malformedTag
  | _ =>
      if atSeparation text then
        .ok (⟨none, "!"⟩, text)
      else if wordHasHandle text then do
        let (handle, rest) ← readHandle ('!' :: text)
        let (suffix, rest) ← readUri rest
        pure (⟨some handle, suffix⟩, rest)
      else do
        let (suffix, rest) ← readUri text
        pure (⟨some "!", suffix⟩, rest)

/-- Reads a tag after its first exclamation mark, up to a space or the end of a
line. -/
def readTag (text : List Char) : Except Defect (TagName × List Char) := do
  let (tag, rest) ← readTagName text
  if !atSpaceOrBreak rest then
    throw .malformedTag
  pure (tag, rest)

/-- Reads a number of the language's version. -/
def readVersionNumber (text : List Char) : Except Trouble (Nat × List Char) := do
  let digits := text.takeWhile Char.isDigit
  if digits.isEmpty then
    throw (.defect .malformedDirective)
  pure (← readDigits digits, text.dropWhile Char.isDigit)

/-- Reads what follows the name of a directive. -/
def readDirectiveBody (name : String) (text : List Char) :
    Except Trouble (Directive × List Char) :=
  let text := text.dropWhile (· == ' ')
  if name = "YAML" then do
    let (major, rest) ← readVersionNumber text
    let '.' :: rest := rest | throw (.defect .malformedDirective)
    let (_, rest) ← readVersionNumber rest
    if !atSpaceOrBreak rest then
      throw (.defect .malformedDirective)
    pure (.version major, rest)
  else if name = "TAG" then do
    let (handle, rest) ← readHandle text
    if rest.head? != some ' ' then
      throw (.defect .malformedDirective)
    let (start, rest) ← readUri (rest.dropWhile (· == ' '))
    if !atSpaceOrBreak rest then
      throw (.defect .malformedDirective)
    pure (.handle handle start, rest)
  else
    .ok (.other, text.dropWhile fun c => !isBreak c)

/-- Reads a directive after its percent sign, with the rest of its line. -/
def readDirective (text : List Char) :
    Except Trouble (Directive × List Char) := do
  let name := text.takeWhile isNameCharacter
  let rest := text.dropWhile isNameCharacter
  if name.isEmpty || !atSpaceOrBreak rest then
    throw (.defect .malformedDirective)
  let (directive, rest) ← readDirectiveBody (String.ofList name) rest
  let some rest := skipLine? rest | throw (.defect .malformedDirective)
  pure (directive, rest)

end Property

end PaneLayout.Yaml
