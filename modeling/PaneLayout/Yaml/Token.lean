import PaneLayout.Yaml.PlainScalar
import PaneLayout.Yaml.Property

/-!
# Tokens of YAML text

Tokens are the brackets of a document and what stands between them.  The
brackets of block collections follow from the indentation: a collection begins
where a line is indented deeper than the collection around it, and ends before a
line that is indented less.

A key is recognised by the `:` behind it, so what may be one is remembered until
its line ends, and the token that announces a key is put before it later.
-/

namespace PaneLayout.Yaml

/-- A piece of a document. -/
inductive Token where
  | directive (content : Directive)
  | documentStart
  | documentEnd
  | streamEnd
  | blockSequence
  | blockMapping
  | blockEnd
  | flowSequence
  | flowSequenceEnd
  | flowMapping
  | flowMappingEnd
  /-- The hyphen before an entry of a block sequence. -/
  | hyphen
  | comma
  /-- What follows is a key. -/
  | key
  /-- What follows is the value of a key. -/
  | value
  | alias (name : String)
  | anchor (name : String)
  | tag (name : TagName)
  /-- A scalar; a plain one is neither quoted nor a block. -/
  | scalar (text : String) ( isPlain : Bool)
deriving Repr, BEq, Inhabited

/-- The tokens of a text, up to the trouble in it. -/
structure Tokens where
  known : List Token
  trouble : Option Trouble
deriving Repr, Inhabited

namespace Tokens

/-- What may be a key. -/
structure Candidate where
  /-- The number of flow collections around it. -/
  depth : Nat
  /-- The number of tokens before it. -/
  position : Nat
  /-- The indentation allows nothing but a key. -/
  required : Bool
  index : Nat
  line : Nat
  column : Nat
deriving Repr, Inhabited

/-- The state of reading. -/
structure Reader where
  cursor : Cursor
  /-- The tokens so far, last token first. -/
  tokens : List Token := []
  /-- The number of flow collections around the cursor. -/
  depth : Nat := 0
  /-- The column of the innermost block collection; `-1` outside all. -/
  indent : Int := -1
  /-- The columns of the block collections around that one. -/
  outer : List Int := []
  /-- A key may begin here. -/
  allowsKey : Bool := true
  candidates : List Candidate := []
deriving Repr, Inhabited

namespace Reader

/-- The state after a token and the text up to `rest`. -/
def push (reader : Reader) (token : Token) (rest : List Char) : Reader :=
  { reader with
    cursor := reader.cursor.moveTo rest
    tokens := token :: reader.tokens }

/-- The state with a token put before the one at a position. -/
def putBefore (reader : Reader) (position : Nat) (token : Token) : Reader :=
  { reader with
    tokens := reader.tokens.insertIdx (reader.tokens.length - position) token }

/-- Skips spaces, comments and line breaks; the result says whether a line
ended. -/
def skipFiller : Bool → Bool → List Char → Bool × List Char
  | _, ended, [] => (ended, [])
  | inComment, ended, c :: rest =>
      if isBreak c then
        skipFiller false true rest
      else if inComment || c == ' ' then
        skipFiller inComment ended rest
      else if c == '#' then
        skipFiller true ended rest
      else
        (ended, c :: rest)

/-- Goes to the beginning of the next token. -/
def toToken (reader : Reader) : Reader :=
  let (ended, rest) := skipFiller false false reader.cursor.rest
  { reader with
    cursor := reader.cursor.moveTo rest
    allowsKey := reader.allowsKey || (ended && reader.depth == 0) }

/-- A key ends on its line and within 1024 characters. -/
def isStale (reader : Reader) (candidate : Candidate) : Bool :=
  candidate.line != reader.cursor.line ||
    1024 + candidate.index < reader.cursor.index

/-- Forgets what can no longer be a key. -/
def dropStale (reader : Reader) : Except Defect Reader :=
  if reader.candidates.any fun candidate =>
      reader.isStale candidate && candidate.required then
    .error .missingColon
  else
    .ok { reader with
      candidates := reader.candidates.filter fun candidate =>
        !reader.isStale candidate }

/-- Gives up what may be a key in the innermost flow collection. -/
def dropCandidate (reader : Reader) : Except Defect Reader :=
  if reader.candidates.any fun candidate =>
      candidate.depth == reader.depth && candidate.required then
    .error .missingColon
  else
    .ok { reader with
      candidates := reader.candidates.filter fun candidate =>
        candidate.depth != reader.depth }

/-- Remembers that the next token may begin a key. -/
def saveCandidate (reader : Reader) : Except Defect Reader :=
  if reader.allowsKey then do
    let column := reader.cursor.column
    let reader ← reader.dropCandidate
    let required := reader.depth == 0 && reader.indent == (column : Int)
    pure { reader with
      candidates := ⟨reader.depth, reader.tokens.length, required,
        reader.cursor.index, reader.cursor.line, column⟩ :: reader.candidates }
  else
    .ok reader

/-- Ends the block collections that begin to the right of a column.  The
arguments are the innermost column, the outer ones and the tokens so far. -/
def closeFrom (column : Int) : Int → List Int → List Token →
    Int × List Int × List Token
  | indent, [], tokens => (indent, [], tokens)
  | indent, next :: outer, tokens =>
      if column < indent then
        closeFrom column next outer (.blockEnd :: tokens)
      else
        (indent, next :: outer, tokens)

/-- Ends the block collections that begin to the right of a column, unless the
cursor is inside a flow collection. -/
def closeBlocks (reader : Reader) (column : Int) : Reader :=
  if reader.depth = 0 then
    let (indent, outer, tokens) :=
      closeFrom column reader.indent reader.outer reader.tokens
    { reader with indent, outer, tokens }
  else
    reader

/-- Begins a block collection at a column if the one around it begins further
left.  Its token is put at the given position. -/
def openBlock (reader : Reader) (column : Nat) (position : Nat)
    (token : Token) : Reader :=
  if reader.indent < (column : Int) then
    let reader := { reader with
      outer := reader.indent :: reader.outer
      indent := (column : Int) }
    reader.putBefore position token
  else
    reader

/-- Begins a block collection at the cursor. -/
def openBlockHere (reader : Reader) (token : Token) : Reader :=
  reader.openBlock reader.cursor.column reader.tokens.length token

/-- The end of the text. -/
def finish (reader : Reader) : Except Defect Reader := do
  let reader ← (reader.closeBlocks (-1)).dropCandidate
  pure (reader.push .streamEnd [])

/-- A token between documents. -/
def betweenDocuments (reader : Reader) (token : Token) (rest : List Char) :
    Except Defect Reader := do
  let reader ← (reader.closeBlocks (-1)).dropCandidate
  pure { reader.push token rest with allowsKey := false }

/-- The beginning of a flow collection. -/
def openFlow (reader : Reader) (token : Token) (rest : List Char) :
    Except Defect Reader := do
  let reader ← reader.saveCandidate
  pure { reader.push token rest with
    depth := reader.depth + 1, allowsKey := true }

/-- The end of a flow collection. -/
def closeFlow (reader : Reader) (token : Token) (rest : List Char) :
    Except Defect Reader := do
  let reader ← reader.dropCandidate
  if reader.depth = 0 then
    throw .strayClosing
  pure { reader.push token rest with
    depth := reader.depth - 1, allowsKey := false }

/-- A comma in a flow collection. -/
def comma (reader : Reader) (rest : List Char) : Except Defect Reader := do
  let reader ← reader.dropCandidate
  pure { reader.push .comma rest with allowsKey := true }

/-- The hyphen before an entry. -/
def hyphen (reader : Reader) (rest : List Char) : Except Defect Reader := do
  let mut reader := reader
  if reader.depth = 0 then
    if !reader.allowsKey then
      throw .misplacedEntry
    reader := reader.openBlockHere .blockSequence
  reader ← reader.dropCandidate
  pure { reader.push .hyphen rest with allowsKey := true }

/-- The question mark before a key. -/
def key (reader : Reader) (rest : List Char) : Except Defect Reader := do
  let mut reader := reader
  if reader.depth = 0 then
    if !reader.allowsKey then
      throw .misplacedKey
    reader := reader.openBlockHere .blockMapping
  reader ← reader.dropCandidate
  pure { reader.push .key rest with allowsKey := reader.depth == 0 }

/-- The colon before a value. -/
def value (reader : Reader) (rest : List Char) : Except Defect Reader := do
  match reader.candidates.find? fun candidate =>
      candidate.depth == reader.depth with
  | some candidate =>
      let reader := { reader with
        candidates := reader.candidates.filter fun candidate =>
          candidate.depth != reader.depth }
      let reader := reader.putBefore candidate.position .key
      let reader := if reader.depth = 0 then
        reader.openBlock candidate.column candidate.position .blockMapping
      else
        reader
      pure { reader.push .value rest with allowsKey := false }
  | none =>
      let mut reader := reader
      if reader.depth = 0 then
        if !reader.allowsKey then
          throw .misplacedValue
        reader := reader.openBlockHere .blockMapping
      reader ← reader.dropCandidate
      pure { reader.push .value rest with allowsKey := reader.depth == 0 }

/-- A token that belongs to a node and may begin a key. -/
def content (reader : Reader) (token : Token) (rest : List Char) :
    Except Defect Reader := do
  let reader ← reader.saveCandidate
  pure { reader.push token rest with allowsKey := false }

/-- A block scalar, which cannot be a key. -/
def block (reader : Reader) (folded : Bool) (rest : List Char) :
    Except Defect Reader := do
  let reader ← reader.dropCandidate
  let least := max 1 (reader.indent + 1).toNat
  let (text, rest) ← BlockScalar.read folded least rest
  pure { reader.push (.scalar text false) rest with allowsKey := true }

/-- A plain scalar; after its last line a key may begin. -/
def plain (reader : Reader) : Except Defect Reader := do
  let scalar := PlainScalar.read (reader.depth != 0) (reader.indent + 1).toNat
    reader.cursor.rest
  let reader ← reader.content (.scalar scalar.text true) scalar.rest
  pure { reader with allowsKey := scalar.leftLine }

/-- Reads the token that begins with a character. -/
def read (reader : Reader) (c : Char) (rest : List Char) :
    Except Trouble Reader := do
  let atLineStart := reader.cursor.column == 0
  let inFlow := reader.depth != 0
  if c == '%' && atLineStart then
    let reader ← (reader.closeBlocks (-1)).dropCandidate
    let (directive, rest) ← Property.readDirective rest
    pure { reader.push (.directive directive) rest with allowsKey := false }
  else if atLineStart && atDocumentStart (c :: rest) then
    reader.betweenDocuments .documentStart (rest.drop 2)
  else if atLineStart && atDocumentEnd (c :: rest) then
    reader.betweenDocuments .documentEnd (rest.drop 2)
  else if c == '[' then
    reader.openFlow .flowSequence rest
  else if c == '\x7b' then
    reader.openFlow .flowMapping rest
  else if c == ']' then
    reader.closeFlow .flowSequenceEnd rest
  else if c == '\x7d' then
    reader.closeFlow .flowMappingEnd rest
  else if c == ',' then
    reader.comma rest
  else if c == '-' && atSeparation rest then
    reader.hyphen rest
  else if c == '?' && (inFlow || atSeparation rest) then
    reader.key rest
  else if c == ':' && (inFlow || atSeparation rest) then
    reader.value rest
  else if c == '*' then
    let (name, rest) ← Property.readName rest
    reader.content (.alias name) rest
  else if c == '&' then
    let (name, rest) ← Property.readName rest
    reader.content (.anchor name) rest
  else if c == '!' then
    let (name, rest) ← Property.readTag rest
    reader.content (.tag name) rest
  else if c == '|' && !inFlow then
    reader.block false rest
  else if c == '>' && !inFlow then
    reader.block true rest
  else if c == '\'' then
    let (text, rest) ← QuotedScalar.read .single rest
    reader.content (.scalar text false) rest
  else if c == '"' then
    let (text, rest) ← QuotedScalar.read .double rest
    reader.content (.scalar text false) rest
  else if PlainScalar.canStart inFlow c rest then
    reader.plain
  else
    throw (.defect (.strayCharacter c))

/-- Reads the next token, and the brackets before it. -/
def next (reader : Reader) : Except Trouble Reader := do
  let reader ← reader.toToken.dropStale
  let reader := reader.closeBlocks (reader.cursor.column : Int)
  match reader.cursor.rest with
  | [] => reader.finish
  | c :: rest => reader.read c rest

/-- The tokens that no later `:` can turn into a key. -/
def decided (reader : Reader) : List Token :=
  let positions := (reader.candidates.filter fun candidate =>
    !reader.isStale candidate).map (·.position)
  reader.tokens.reverse.take
    (positions.foldl min reader.tokens.length)

/-- Reads tokens to the end of the text or to the first trouble.  Each token
takes at least one character, which bounds their number. -/
def readAll : Nat → Reader → Tokens
  | 0, reader => ⟨reader.decided, none⟩
  | fuel + 1, reader =>
      match reader.next with
      | .error trouble => ⟨reader.decided, some trouble⟩
      | .ok reader =>
          if reader.tokens.head? == some .streamEnd then
            ⟨reader.tokens.reverse, none⟩
          else
            readAll fuel reader

end Reader

/-- The tokens of a text. -/
def ofText (text : List Char) : Tokens :=
  match text.find? fun c => !isAllowed c with
  | some c => ⟨[], some (.defect (.forbiddenCharacter c))⟩
  | none => Reader.readAll (text.length + 1) { cursor := Cursor.start text }

end Tokens

end PaneLayout.Yaml
