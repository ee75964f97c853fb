import PaneLayout.Yaml.QuotedScalar

/-!
# Plain scalars

A plain scalar ends before `: `, before ` #`, before a line that is indented too
little or begins with a document marker, and inside flow collections also before
a bracket, a brace, a comma or a question mark.  Line breaks inside it are
folded as in quoted scalars.
-/

namespace PaneLayout.Yaml

/-- A plain scalar that has been read. -/
structure PlainScalar where
  text : String
  /-- The text after the scalar and the blanks and line breaks behind it. -/
  rest : List Char
  /-- The line of the scalar's last character has been left. -/
  leftLine : Bool
deriving Repr, Inhabited

namespace PlainScalar

/-- A character that ends a scalar inside a flow collection. -/
def isFlowEnd (c : Char) : Bool :=
  [',', '?', '[', ']', '\x7b', '\x7d'].contains c

/-- Nothing may follow directly but a bracket, a brace or a comma. -/
def atFlowMark : List Char → Bool
  | [] => false
  | c :: _ => [',', '[', ']', '\x7b', '\x7d'].contains c

/-- A character with which a piece of a plain scalar ends. -/
def endsPiece (inFlow : Bool) (c : Char) (rest : List Char) : Bool :=
  isSeparation c ||
    (c == ':' && (atSeparation rest || (inFlow && atFlowMark rest))) ||
    (inFlow && isFlowEnd c)

/-- The beginning of a plain scalar. -/
def canStart (inFlow : Bool) (c : Char) (rest : List Char) : Bool :=
  if c == '-' || (!inFlow && (c == '?' || c == ':')) then
    !atSeparation rest
  else
    !isSeparation c && !"-?:,[]\x7b\x7d#&*!|>'\"%@".toList.contains c &&
      c.toNat != 0x60

/-- What has been read since the last character of the text. -/
inductive Mode where
  | inside
  | blanks (count : Nat)
  /-- Line breaks, and the spaces at the beginning of the line. -/
  | lines (fold : Fold) (column : Nat)

/-- Text that ends here. -/
def done (mode : Mode) (read rest : List Char) : PlainScalar :=
  let leftLine := match mode with
    | .lines _ _ => true
    | _ => false
  ⟨String.ofList read.reverse, rest, leftLine⟩

/-- The text of blanks and line breaks before another character. -/
def Mode.text : Mode → List Char
  | .inside => []
  | .blanks count => List.replicate count ' '
  | .lines fold _ => fold.text

/-- One more space. -/
def Mode.space : Mode → Mode
  | .inside => .blanks 1
  | .blanks count => .blanks (count + 1)
  | .lines fold column => .lines fold (column + 1)

/-- One more line break. -/
def Mode.break (mode : Mode) (c : Char) : Mode :=
  match mode with
  | .lines fold _ => .lines (fold.push c) 0
  | _ => .lines ⟨breakText c, []⟩ 0

/-- The scalar cannot go on with the character that comes next. -/
def Mode.stops (mode : Mode) (inFlow : Bool) (indent : Nat) (c : Char) : Bool :=
  match mode with
  | .inside => false
  | .blanks _ => c == '#'
  | .lines _ column => c == '#' || (!inFlow && column < indent)

/-- Reads on in a scalar that must be indented by `indent` spaces outside flow
collections.  `read` holds the text so far, last character first. -/
def readFrom (inFlow : Bool) (indent : Nat) :
    Mode → List Char → List Char → PlainScalar
  | mode, read, [] => done mode read []
  | mode, read, c :: rest =>
      if c == ' ' then
        readFrom inFlow indent mode.space read rest
      else if isSilent c rest then
        readFrom inFlow indent mode read rest
      else if isBreak c then
        if atMarker rest then
          done (mode.break c) read rest
        else
          readFrom inFlow indent (mode.break c) read rest
      else if mode.stops inFlow indent c || endsPiece inFlow c rest then
        done mode read (c :: rest)
      else
        readFrom inFlow indent .inside (c :: (mode.text.reverse ++ read)) rest

/-- Reads the scalar at the beginning of a text. -/
def read (inFlow : Bool) (indent : Nat) (text : List Char) : PlainScalar :=
  readFrom inFlow indent .inside [] text

end PlainScalar

end PaneLayout.Yaml
