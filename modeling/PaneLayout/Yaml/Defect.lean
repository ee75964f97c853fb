import PaneLayout.Fault
import PaneLayout.Text.Quoted

/-!
# Defects of YAML text

A defect is a reason why text is no document: a character that may not stand
where it does, a collection that is not closed, a tag without meaning.  Reading
can also end in a fault, when the text is well formed and one of its scalars
names something that does not exist.
-/

namespace PaneLayout.Yaml

/-- Why text is not a document. -/
inductive Defect where
  /-- A control character. -/
  | forbiddenCharacter (c : Char)
  /-- A character that begins nothing. -/
  | strayCharacter (c : Char)
  /-- A key that the indentation asks for has no `:`. -/
  | missingColon
  /-- An entry of a block sequence stands inside a line. -/
  | misplacedEntry
  /-- A `?` stands inside a line. -/
  | misplacedKey
  /-- A `:` has no key on its line. -/
  | misplacedValue
  /-- A closing bracket or brace has no partner. -/
  | strayClosing
  | malformedDirective
  | malformedAnchor
  | malformedTag
  /-- The line that opens a block scalar holds something else. -/
  | malformedBlockHeader
  /-- A quoted scalar has no closing quote. -/
  | unclosedQuote
  /-- A quoted scalar contains a document marker. -/
  | markerInQuote
  /-- A backslash is followed by none of the escapes. -/
  | unknownEscape
  /-- No node stands where one is needed. -/
  | missingNode
  /-- A block collection is followed by something else at its indentation. -/
  | unfinishedBlock
  /-- The entries of a flow collection are not separated by commas, or it is not
  closed. -/
  | unfinishedFlow
  /-- Directives, or a document, are followed by neither marker nor end. -/
  | missingMarker
  | repeatedDirective
  | unsupportedVersion
  /-- A tag begins with a handle that no directive introduces. -/
  | unknownHandle (handle : String)
  /-- An alias names no node before it. -/
  | unknownAlias (name : String)
  | severalDocuments
  /-- A tag names no kind of value. -/
  | unknownTag
  /-- The kind that a tag names cannot be made of this node. -/
  | unsuitableNode
  /-- A collection is used as a key. -/
  | collectionAsKey
  /-- Something other than mappings is merged into a mapping. -/
  | unsuitableMerge
  /-- Text that should be base64 is not. -/
  | malformedBytes
deriving Repr, BEq, DecidableEq, Inhabited

namespace Defect

/-- A character in a sentence. -/
def shown (c : Char) : String :=
  quoted (String.singleton c)

/-- The sentence that explains a defect. -/
def message : Defect → String
  | forbiddenCharacter c => "special character " ++ shown c ++ " is not allowed"
  | strayCharacter c => "found " ++ shown c ++ " where nothing can begin with it"
  | missingColon => "could not find the ':' of a key"
  | misplacedEntry => "a sequence entry is not allowed here"
  | misplacedKey => "a mapping key is not allowed here"
  | misplacedValue => "a mapping value is not allowed here"
  | strayClosing => "found a closing bracket without an opening one"
  | malformedDirective => "a directive is malformed"
  | malformedAnchor => "an anchor or alias is malformed"
  | malformedTag => "a tag is malformed"
  | malformedBlockHeader => "the header of a block scalar is malformed"
  | unclosedQuote => "a quoted scalar is not closed"
  | markerInQuote => "found a document marker inside a quoted scalar"
  | unknownEscape => "a quoted scalar contains an unknown escape"
  | missingNode => "expected a node"
  | unfinishedBlock => "expected the end of a block collection"
  | unfinishedFlow => "expected a comma or the end of a flow collection"
  | missingMarker => "expected the start of a document"
  | repeatedDirective => "found a directive twice"
  | unsupportedVersion => "the version of the document is not supported"
  | unknownHandle handle => "found the undefined tag handle " ++ quoted handle
  | unknownAlias name => "found the undefined alias " ++ quoted name
  | severalDocuments => "expected a single document"
  | unknownTag => "found a tag without meaning"
  | unsuitableNode => "a node does not fit its tag"
  | collectionAsKey => "found a collection as a key"
  | unsuitableMerge => "expected mappings to merge"
  | malformedBytes => "a binary scalar is not base64"

end Defect

/-- Why a document could not be read. -/
inductive Trouble where
  | defect (cause : Defect)
  | fault (cause : Fault)
deriving Repr, BEq, DecidableEq, Inhabited

namespace Trouble

instance : MonadLift (Except Defect) (Except Trouble) where
  monadLift
    | .ok value => .ok value
    | .error cause => .error (.defect cause)

instance : MonadLift (Except Fault) (Except Trouble) where
  monadLift
    | .ok value => .ok value
    | .error cause => .error (.fault cause)

end Trouble

end PaneLayout.Yaml
