import PaneLayout.Yaml.Cursor

/-!
# Block scalars

A block scalar begins with `|` or `>` at the end of a line, perhaps with an
indentation and a sign that says what becomes of the line breaks at its end.
Its lines are the following ones with the same indentation.  After `>` a single
line break between two lines that do not begin with a blank reads as a space.
-/

namespace PaneLayout.Yaml

/-- What becomes of the line breaks at the end of a block scalar. -/
inductive Chomping where
  /-- The last line break stays. -/
  | clip
  /-- No line break stays. -/
  | strip
  /-- All line breaks stay. -/
  | keep
deriving Repr, BEq, DecidableEq, Inhabited

/-- What the first line of a block scalar says. -/
structure BlockHeader where
  chomping : Chomping
  /-- The indentation, counted from the collection around the scalar. -/
  indentation : Option Nat
deriving Repr, Inhabited

namespace BlockHeader

/-- What a sign says about the line breaks at the end. -/
def chompingOf? : List Char → Option (Chomping × List Char)
  | '+' :: rest => some (.keep, rest)
  | '-' :: rest => some (.strip, rest)
  | _ => none

/-- A digit at the beginning of a text; zero is no indentation. -/
def indentationOf? : List Char → Except Defect (Option (Nat × List Char))
  | [] => .ok none
  | c :: rest =>
      if c == '0' then
        .error .malformedBlockHeader
      else if c.isDigit then
        .ok (some (c.toNat - '0'.toNat, rest))
      else
        .ok none

/-- Reads a sign and a digit in either order. -/
def readMarks (text : List Char) : Except Defect (BlockHeader × List Char) :=
  match chompingOf? text with
  | some (chomping, rest) => do
      match ← indentationOf? rest with
      | some (indentation, rest) => pure (⟨chomping, some indentation⟩, rest)
      | none => pure (⟨chomping, none⟩, rest)
  | none => do
      match ← indentationOf? text with
      | none => pure (⟨.clip, none⟩, text)
      | some (indentation, rest) =>
          match chompingOf? rest with
          | some (chomping, rest) => pure (⟨chomping, some indentation⟩, rest)
          | none => pure (⟨.clip, some indentation⟩, rest)

end BlockHeader

/-- What follows the rest of a line that holds nothing but a comment. -/
def skipComment (text : List Char) : List Char :=
  match text with
  | '#' :: rest => rest.dropWhile fun c => !isBreak c
  | _ => text

/-- What follows a line break, if the text begins with one. -/
def skipBreak : List Char → List Char
  | '\r' :: '\n' :: rest => rest
  | c :: rest => if isBreak c then rest else c :: rest
  | [] => []

/-- What follows a line of which only spaces and a comment are left. -/
def skipLine? (text : List Char) : Option (List Char) :=
  let rest := skipComment (text.dropWhile (· == ' '))
  if atLineEnd rest then some (skipBreak rest) else none

namespace BlockScalar

/-- Empty lines before a line of a block scalar. -/
structure Gap where
  breaks : List Char
  /-- The spaces before the text. -/
  column : Nat
  rest : List Char

/-- Skips empty lines, and at most `indent` spaces before the next one. -/
def gapFrom (indent : Nat) : List Char → Nat → List Char → Gap
  | breaks, column, [] => ⟨breaks, column, []⟩
  | breaks, column, c :: rest =>
      if c == ' ' && column < indent then
        gapFrom indent breaks (column + 1) rest
      else if isSilent c rest then
        gapFrom indent breaks column rest
      else if isBreak c then
        gapFrom indent (breaks ++ [breakText c]) 0 rest
      else
        ⟨breaks, column, c :: rest⟩

/-- Skips empty lines and all spaces, and finds the longest run of spaces. -/
def widestGapFrom : Nat → List Char → Nat → List Char → Nat × Gap
  | widest, breaks, column, [] => (widest, ⟨breaks, column, []⟩)
  | widest, breaks, column, c :: rest =>
      if c == ' ' then
        widestGapFrom (max widest (column + 1)) breaks (column + 1) rest
      else if isSilent c rest then
        widestGapFrom widest breaks column rest
      else if isBreak c then
        widestGapFrom widest (breaks ++ [breakText c]) 0 rest
      else
        (widest, ⟨breaks, column, c :: rest⟩)

/-- Where the reader stands. -/
inductive Mode where
  /-- In a line; `flush` if it does not begin with a blank. -/
  | line (flush : Bool)
  /-- After a line, its line break and the empty lines after it. -/
  | between (flush : Bool) (ending : Char) (breaks : List Char) (column : Nat)

/-- The text of a block scalar before its end is treated. -/
structure Body where
  /-- The text, last character first. -/
  read : List Char
  /-- The line break of the last line. -/
  ending : List Char
  /-- The line breaks of the empty lines after it. -/
  breaks : List Char
  rest : List Char

/-- The line break between two lines. -/
def joint (folded flush nextFlush : Bool) (ending : Char)
    (breaks : List Char) : List Char :=
  if folded && ending == '\n' && flush && nextFlush then
    (if breaks.isEmpty then [' '] else breaks)
  else
    ending :: breaks

/-- Reads the lines that are indented by `indent` spaces. -/
def linesFrom (folded : Bool) (indent : Nat) :
    Mode → List Char → List Char → Body
  | .line _, read, [] => ⟨read, [], [], []⟩
  | .between _ ending breaks _, read, [] => ⟨read, [ending], breaks, []⟩
  | .line flush, read, c :: rest =>
      if isSilent c rest then
        linesFrom folded indent (.line flush) read rest
      else if isBreak c then
        linesFrom folded indent (.between flush (breakText c) [] 0) read rest
      else
        linesFrom folded indent (.line flush) (c :: read) rest
  | .between flush ending breaks column, read, c :: rest =>
      if c == ' ' && column < indent then
        linesFrom folded indent (.between flush ending breaks (column + 1)) read
          rest
      else if isSilent c rest then
        linesFrom folded indent (.between flush ending breaks column) read rest
      else if isBreak c then
        linesFrom folded indent
          (.between flush ending (breaks ++ [breakText c]) 0) read rest
      else if column = indent then
        let nextFlush := !isSpacing c
        let joint := joint folded flush nextFlush ending breaks
        linesFrom folded indent (.line nextFlush) (c :: (joint.reverse ++ read))
          rest
      else
        ⟨read, [ending], breaks, c :: rest⟩

/-- Reads the lines after the empty ones at the beginning. -/
def bodyFrom (folded : Bool) (indent : Nat) (gap : Gap) : Body :=
  match gap.rest with
  | [] => ⟨[], [], gap.breaks, []⟩
  | c :: rest =>
      if gap.column = indent then
        linesFrom folded indent (.line (!isSpacing c)) gap.breaks.reverse
          (c :: rest)
      else
        ⟨[], [], gap.breaks, c :: rest⟩

/-- The text with the line breaks that are kept at its end. -/
def Body.text (body : Body) (chomping : Chomping) : String :=
  let ending := match chomping with
    | .strip => []
    | .clip => body.ending
    | .keep => body.ending ++ body.breaks
  String.ofList (body.read.reverse ++ ending)

/-- Reads what follows the `|` or `>` of a block scalar whose lines are indented
by at least `least` spaces. -/
def read (folded : Bool) (least : Nat) (text : List Char) :
    Except Defect (String × List Char) := do
  let (header, rest) ← BlockHeader.readMarks text
  if !atSpaceOrBreak rest then
    throw .malformedBlockHeader
  let some rest := skipLine? rest | throw .malformedBlockHeader
  let body := match header.indentation with
    | some indentation =>
        let indent := least + indentation - 1
        bodyFrom folded indent (gapFrom indent [] 0 rest)
    | none =>
        let (widest, gap) := widestGapFrom 0 [] 0 rest
        bodyFrom folded (max least widest) gap
  pure (body.text header.chomping, body.rest)

end BlockScalar

end PaneLayout.Yaml
