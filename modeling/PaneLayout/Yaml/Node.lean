import PaneLayout.Yaml.Tag
import PaneLayout.Yaml.Token

/-!
# Nodes of a document

A document is a tree of scalars, sequences and mappings, each of a kind.  It is
read from tokens; an alias stands for a copy of the node that it names.  Trees do
not contain themselves: inside of a collection, an alias to it stands for an
empty collection of its kind.
-/

namespace PaneLayout.Yaml

/-- A node of a document. -/
inductive Node where
  | scalar (tag : Tag) (text : String)
  | sequence (tag : Tag) (items : List Node)
  | mapping (tag : Tag) (entries : List (Node × Node))
deriving Repr, Inhabited

namespace Node

/-- The kind of a node. -/
def tag : Node → Tag
  | .scalar tag _ => tag
  | .sequence tag _ => tag
  | .mapping tag _ => tag

/-- The node that stands where nothing is written. -/
def empty : Node := .scalar .null ""

/-- What is known while nodes are read. -/
structure Reading where
  tokens : List Token
  /-- What comes after the tokens. -/
  trouble : Option Trouble
  /-- What the handles of tags stand for. -/
  handles : List (String × String)
  /-- The nodes that have names, the latest first; a collection that has not been
  read to its end is empty. -/
  anchors : List (String × Node) := []

/-- A computation that reads nodes. -/
abbrev Reader := StateT Reading (Except Trouble)

/-- The next token. -/
def peek : Reader Token := do
  let reading ← get
  match reading.tokens with
  | token :: _ => pure token
  | [] => throw (reading.trouble.getD (.defect .missingNode))

/-- Goes past a token. -/
def drop : Reader Unit :=
  modify fun reading => { reading with tokens := reading.tokens.tail }

/-- Gives a node a name. -/
def name (anchor : Option String) (node : Node) : Reader Unit :=
  match anchor with
  | none => pure ()
  | some anchor => modify fun reading =>
      { reading with anchors := (anchor, node) :: reading.anchors }

/-- The node with a name. -/
def named (anchor : String) : Reader Node := do
  match (← get).anchors.lookup anchor with
  | some node => pure node
  | none => throw (.defect (.unknownAlias anchor))

/-- A tag with its handle replaced. -/
def fullTag (written : TagName) : Reader String := do
  match written.handle with
  | none => pure written.suffix
  | some handle =>
      match (← get).handles.lookup handle with
      | some start => pure (start ++ written.suffix)
      | none => throw (.defect (.unknownHandle handle))

/-- The name and the tag of a node. -/
structure Properties where
  anchor : Option String := none
  tag : Option String := none

/-- Reads an anchor and a tag in either order. -/
def properties : Reader Properties := do
  match ← peek with
  | .anchor anchor =>
      drop
      match ← peek with
      | .tag written =>
          drop
          pure ⟨some anchor, some (← fullTag written)⟩
      | _ => pure ⟨some anchor, none⟩
  | .tag written =>
      drop
      match ← peek with
      | .anchor anchor =>
          drop
          pure ⟨some anchor, some (← fullTag written)⟩
      | _ => pure ⟨none, some (← fullTag written)⟩
  | _ => pure {}

/-- The kind of a scalar.  The tag `!` asks for the kind that the text looks
like, also of a quoted scalar. -/
def scalarTag (tag : Option String) (text : String) ( isPlain : Bool) : Tag :=
  match tag with
  | none => if isPlain then Tag.ofPlain text.toList else .text
  | some "!" => Tag.ofPlain text.toList
  | some uri => Tag.ofUri uri

/-- The kind of a collection. -/
def collectionTag (tag : Option String) (usual : Tag) : Tag :=
  match tag with
  | none => usual
  | some "!" => usual
  | some uri => Tag.ofUri uri

/-- Where a node may stand. -/
inductive Place where
  /-- In a flow collection. -/
  | flow
  /-- In a block collection or at the top of a document. -/
  | block
  /-- After the key of a block mapping, where the entries of a sequence need not
  be indented. -/
  | value
deriving Repr, BEq, DecidableEq

mutual

/-- Reads a node.  The first argument bounds the number of nested calls. -/
def read : Nat → Place → Reader Node
  | 0, _ => throw (.defect .missingNode)
  | fuel + 1, place => do
      if let .alias anchor ← peek then
        drop
        return ← named anchor
      let found ← properties
      let sequence (items : Reader (List Node)) : Reader Node := do
        let tag := collectionTag found.tag .sequence
        name found.anchor (.sequence tag [])
        pure (.sequence tag (← items))
      let mapping (entries : Reader (List (Node × Node))) : Reader Node := do
        let tag := collectionTag found.tag .mapping
        name found.anchor (.mapping tag [])
        pure (.mapping tag (← entries))
      let node ← match ← peek with
        | .scalar text isPlain =>
            drop
            pure (.scalar (scalarTag found.tag text isPlain) text)
        | .flowSequence =>
            drop
            sequence (readFlowItems fuel true)
        | .flowMapping =>
            drop
            mapping (readFlowEntries fuel true)
        | token =>
            if token == .hyphen && place == .value then
              sequence (readLooseItems fuel)
            else if token == .blockSequence && place != .flow then
              drop
              sequence (readBlockItems fuel)
            else if token == .blockMapping && place != .flow then
              drop
              mapping (readBlockEntries fuel)
            else if found.anchor.isSome || found.tag.isSome then
              pure (.scalar (scalarTag found.tag "" true) "")
            else
              throw (.defect .missingNode)
      name found.anchor node
      pure node

/-- Reads a node, or nothing before one of the given tokens. -/
def readUnless : Nat → Place → List Token → Reader Node
  | 0, _, _ => throw (.defect .missingNode)
  | fuel + 1, place, ends => do
      if ends.contains (← peek) then
        pure empty
      else
        read fuel place

/-- Reads the value after a key, which may be missing. -/
def readValue : Nat → Place → List Token → Reader Node
  | 0, _, _ => throw (.defect .missingNode)
  | fuel + 1, place, ends => do
      if (← peek) == .value then
        drop
        readUnless fuel place ends
      else
        pure empty

/-- Reads the entries of a block sequence to its end. -/
def readBlockItems : Nat → Reader (List Node)
  | 0 => throw (.defect .missingNode)
  | fuel + 1 => do
      match ← peek with
      | .hyphen =>
          drop
          let item ← readUnless fuel .block [.hyphen, .blockEnd]
          return item :: (← readBlockItems fuel)
      | .blockEnd =>
          drop
          pure []
      | _ => throw (.defect .unfinishedBlock)

/-- Reads the entries of a sequence that is not indented. -/
def readLooseItems : Nat → Reader (List Node)
  | 0 => throw (.defect .missingNode)
  | fuel + 1 => do
      match ← peek with
      | .hyphen =>
          drop
          let item ← readUnless fuel .block [.hyphen, .key, .value, .blockEnd]
          return item :: (← readLooseItems fuel)
      | _ => pure []

/-- Reads the entries of a block mapping to its end. -/
def readBlockEntries : Nat → Reader (List (Node × Node))
  | 0 => throw (.defect .missingNode)
  | fuel + 1 => do
      match ← peek with
      | .key =>
          drop
          let ends := [.key, .value, .blockEnd]
          let key ← readUnless fuel .value ends
          let value ← readValue fuel .value ends
          return (key, value) :: (← readBlockEntries fuel)
      | .blockEnd =>
          drop
          pure []
      | _ => throw (.defect .unfinishedBlock)

/-- Reads the items of a flow sequence to its end.  A pair among them is a
mapping with one entry. -/
def readFlowItems : Nat → Bool → Reader (List Node)
  | 0, _ => throw (.defect .missingNode)
  | fuel + 1, isFirst => do
      if (← peek) == .flowSequenceEnd then
        drop
        return []
      if !isFirst then
        if (← peek) == .comma then
          drop
        else
          throw (.defect .unfinishedFlow)
      match ← peek with
      | .flowSequenceEnd =>
          drop
          pure []
      | .key =>
          drop
          let key ← readUnless fuel .flow [.value, .comma, .flowSequenceEnd]
          let value ← readValue fuel .flow [.comma, .flowSequenceEnd]
          return .mapping .mapping [(key, value)] :: (← readFlowItems fuel false)
      | _ =>
          let item ← read fuel .flow
          return item :: (← readFlowItems fuel false)

/-- Reads the entries of a flow mapping to its end.  A node that is no key has
no value. -/
def readFlowEntries : Nat → Bool → Reader (List (Node × Node))
  | 0, _ => throw (.defect .missingNode)
  | fuel + 1, isFirst => do
      if (← peek) == .flowMappingEnd then
        drop
        return []
      if !isFirst then
        if (← peek) == .comma then
          drop
        else
          throw (.defect .unfinishedFlow)
      match ← peek with
      | .flowMappingEnd =>
          drop
          pure []
      | .key =>
          drop
          let key ← readUnless fuel .flow [.value, .comma, .flowMappingEnd]
          let value ← readValue fuel .flow [.comma, .flowMappingEnd]
          return (key, value) :: (← readFlowEntries fuel false)
      | _ =>
          let key ← read fuel .flow
          return (key, empty) :: (← readFlowEntries fuel false)

end

/-- The handles that need no directive. -/
def usualHandles : List (String × String) :=
  [("!", "!"), ("!!", Tag.languageStart)]

/-- Reads the directives before a document.  The handles found so far are given,
and whether a version was. -/
def directivesFrom : Bool → List (String × String) → List Token →
    Except Defect (List (String × String) × List Token)
  | versioned, handles, .directive (.version major) :: rest =>
      if versioned then
        .error .repeatedDirective
      else if major ≠ 1 then
        .error .unsupportedVersion
      else
        directivesFrom true handles rest
  | versioned, handles, .directive (.handle name start) :: rest =>
      if (handles.lookup name).isSome then
        .error .repeatedDirective
      else
        directivesFrom versioned ((name, start) :: handles) rest
  | versioned, handles, .directive .other :: rest =>
      directivesFrom versioned handles rest
  | _, handles, rest => .ok (handles ++ usualHandles, rest)

/-- Goes past markers for the end of a document. -/
def dropEnds : Reader Unit :=
  modify fun reading => { reading with
    tokens := reading.tokens.dropWhile (· == .documentEnd) }

/-- The token stands between documents. -/
def isBoundary : Token → Bool
  | .directive _ => true
  | .documentStart => true
  | .documentEnd => true
  | .streamEnd => true
  | _ => false

/-- Reads the node of a document that begins with directives or a marker, or
finds that there is no document. -/
def readMarked (fuel : Nat) : Reader (Option Node) := do
  dropEnds
  if (← peek) == .streamEnd then
    return none
  let reading ← get
  let (handles, tokens) ← directivesFrom false [] reading.tokens
  set { reading with handles, tokens }
  if (← peek) != .documentStart then
    throw (.defect .missingMarker)
  drop
  if isBoundary (← peek) then
    pure (some empty)
  else
    some <$> read fuel .block

/-- Reads the only document of a text, if there is one. -/
def readDocument (fuel : Nat) : Reader (Option Node) := do
  let token ← peek
  let node ←
    if isBoundary token && token != .documentEnd then
      readMarked fuel
    else
      some <$> read fuel .block
  dropEnds
  if (← peek) != .streamEnd then
    throw (.defect .severalDocuments)
  pure node

/-- The node that tokens describe.  Every second nested call takes a token. -/
def ofTokens (tokens : Tokens) : Except Trouble (Option Node) :=
  (readDocument (4 * tokens.known.length + 4)).run'
    ⟨tokens.known, tokens.trouble, usualHandles, []⟩

end Node

end PaneLayout.Yaml
