import PaneLayout.Number.Decimal
import PaneLayout.Text.Base64
import PaneLayout.Value
import PaneLayout.Yaml.Node

/-!
# Values of documents

A node becomes a value of its kind.  Collections are filled level by level, so
of several troubles the one nearest to the top of the document is reported, and
of those at one level the first.

The key `<<` merges the entries of other mappings into a mapping: they come
before its own entries, which replace them.
-/

namespace PaneLayout.Yaml

namespace Scalar

/-- Text without underscores. -/
def dropMarks (text : String) : List Char :=
  text.toList.filter (· != '_')

/-- A numeral in parts: its sign, and what follows it.  There must be something
to look for a sign in. -/
def splitSign : List Char → Except Fault (Bool × List Char)
  | [] => .error .missingElement
  | '-' :: rest => .ok (true, rest)
  | '+' :: rest => .ok (false, rest)
  | unsigned => .ok (false, unsigned)

/-- Reads a whole number without sign in one of its notations. -/
def readMagnitude : List Char → Except Fault Int
  | [] => .error .missingElement
  | ['0'] => .ok 0
  | '0' :: 'b' :: digits => readWholeIn 2 digits
  | '0' :: 'x' :: digits => readWholeIn 16 digits
  | '0' :: digits => readWholeIn 8 ('0' :: digits)
  | text => do
      let parts ← (splitWhere (· == ':') text).mapM readWhole
      pure (parts.foldl (fun value part => value * 60 + part) 0)

/-- Reads a whole number: decimal, binary, octal after a zero, hexadecimal, or
in sixtieths. -/
def readInt (text : String) : Except Fault Int := do
  let (negative, magnitude) ← splitSign (dropMarks text)
  let value ← readMagnitude magnitude
  pure (if negative then -value else value)

/-- The sum of numbers of sixtieths, the last of which counts once. -/
def sumSixtieths (parts : List Float) : Except Fault Float := do
  let step := fun ((sum, unit) : Float × Int) (part : Float) =>
    (Binary64.ofInt unit).map fun factor => (sum + part * factor, unit * 60)
  (parts.reverse.foldlM step (0.0, 1)).map Prod.fst

/-- Reads a double, perhaps in sixtieths. -/
def readFloat (text : String) : Except Fault Float := do
  let (negative, magnitude) ← splitSign (dropMarks text)
  let word := String.ofList (lowered magnitude)
  let value ←
    if word = ".inf" then
      pure Binary64.infinity
    else if word = ".nan" then
      return Binary64.notANumber
    else if magnitude.contains ':' then
      sumSixtieths (← (splitWhere (· == ':') magnitude).mapM readDouble)
    else
      readDouble magnitude
  pure (if negative then -value else value)

/-- Reads a truth value. -/
def readBool (text : String) : Except Fault Bool :=
  let word := String.ofList (lowered text.toList)
  if ["yes", "true", "on"].contains word then
    .ok true
  else if ["no", "false", "off"].contains word then
    .ok false
  else
    .error .unknownBooleanWord

/-- Reads a date or a timestamp. -/
def readMoment (text : String) : Except Fault Value := do
  let some moment := Moment.read? (Tag.dropFinalBreak text.toList)
    | throw .malformedTimestamp
  let date ← Date.make moment.year moment.month moment.day
  match moment.time with
  | none => pure (.date date)
  | some (hour, minute, second, microsecond) =>
      return .timestamp
        (← Timestamp.make date hour minute second microsecond moment.offset)

/-- Reads bytes in base64. -/
def readBytes (text : String) : Except Defect (List UInt8) :=
  if text.toList.all (·.toNat < 128) then
    match Base64.decode? text.toList with
    | some octets => .ok octets
    | none => .error .malformedBytes
  else
    .error .malformedBytes

/-- The value of a scalar of a kind. -/
def value (tag : Tag) (text : String) : Except Trouble Value :=
  match tag with
  | .null => pure .null
  | .bool => return .bool (← readBool text)
  | .int => return .int (← readInt text)
  | .float => return .float (← readFloat text)
  | .timestamp => readMoment text
  | .binary => return .bytes (← readBytes text)
  | .text => pure (.text text)
  | .merge => throw (.defect .unknownTag)
  | .value => throw (.defect .unknownTag)
  | .unknown => throw (.defect .unknownTag)
  | _ => throw (.defect .unsuitableNode)

end Scalar

/-- A result, or a trouble and how many levels below the top it lies. -/
abbrev Leveled (α : Type) := Except (Nat × Trouble) α

namespace Leveled

/-- A trouble at the top. -/
def fail {α : Type} (cause : Defect) : Leveled α :=
  .error (0, .defect cause)

/-- A trouble at the top, if there is one. -/
def ofExcept {α : Type} : Except Trouble α → Leveled α
  | .ok value => .ok value
  | .error trouble => .error (0, trouble)

/-- The same result one level below. -/
def below {α : Type} : Leveled α → Leveled α
  | .ok value => .ok value
  | .error (level, trouble) => .error (level + 1, trouble)

/-- Two results.  The trouble nearer to the top counts, or else the first. -/
def both {α β : Type} : Leveled α → Leveled β → Leveled (α × β)
  | .ok left, .ok right => .ok (left, right)
  | .ok _, .error right => .error right
  | .error left, .ok _ => .error left
  | .error left, .error right =>
      .error (if right.1 < left.1 then right else left)

/-- All results of a list. -/
def all {α : Type} (results : List (Leveled α)) : Leveled (List α) :=
  results.foldr (fun first rest =>
    (both first rest).map fun (first, rest) => first :: rest) (.ok [])

end Leveled

namespace Node

/-- The key and the value of an entry. -/
abbrev BuiltEntry := Leveled Value × Leveled Value

/-- All entries of a mapping. -/
def entriesOf (entries : List BuiltEntry) : Leveled (List (Value × Value)) :=
  Leveled.all (entries.map fun (key, value) => Leveled.both key value)

mutual

/-- The text of a node that should be a scalar: its own, or that of the value
under the key `=`. -/
def scalarText : Node → Except Defect String
  | .scalar _ text => .ok text
  | .sequence _ _ => .error .unsuitableNode
  | .mapping _ entries => entriesText entries

/-- The text under the first key `=`. -/
def entriesText : List (Node × Node) → Except Defect String
  | [] => .error .unsuitableNode
  | (key, value) :: entries =>
      if key.tag = .value then scalarText value else entriesText entries

end

/-- The value of a node that is built from its text. -/
def ofText (tag : Tag) (text : Except Defect String) : Leveled Value :=
  Leveled.ofExcept do Scalar.value tag (← text)

mutual

/-- The value of a node. -/
def build : Node → Leveled Value
  | .scalar tag text =>
      if tag.isCollection then
        .below (.fail .unsuitableNode)
      else
        ofText tag (.ok text)
  | .sequence tag items =>
      match tag with
      | .sequence => .below ((Leveled.all (buildItems items)).map Value.list)
      | .orderedMapping => .below ((Leveled.all (buildPairs items)).map Value.list)
      | .pairs => .below ((Leveled.all (buildPairs items)).map Value.list)
      | tag =>
          if tag.isCollection then
            .below (.fail .unsuitableNode)
          else
            ofText tag (.error .unsuitableNode)
  | .mapping tag entries =>
      let built := match buildEntries entries with
        | .ok (merged, own) => entriesOf (merged ++ own)
        | .error cause => .fail cause
      match tag with
      | .mapping => .below (built.map Value.ofEntries)
      | .set => .below (built.map fun entries =>
          Value.ofMembers (entries.map Prod.fst))
      | tag =>
          if tag.isCollection then
            .below (.fail .unsuitableNode)
          else
            ofText tag (entriesText entries)

/-- The values of items. -/
def buildItems : List Node → List (Leveled Value)
  | [] => []
  | item :: items => build item :: buildItems items

/-- The items of a list of pairs, which are written as mappings with one entry
each. -/
def buildPairs : List Node → List (Leveled Value)
  | [] => []
  | .mapping _ [(key, value)] :: items =>
      (Leveled.both (build key) (build value)).map
        (fun (key, value) => .tuple [key, value]) :: buildPairs items
  | _ :: items => .fail .unsuitableNode :: buildPairs items

/-- The entries that are merged into a mapping, and its own. -/
def buildEntries : List (Node × Node) →
    Except Defect (List BuiltEntry × List BuiltEntry)
  | [] => .ok ([], [])
  | (key, value) :: entries => do
      if key.tag = .merge then
        let merged ← mergedEntries value
        let (others, own) ← buildEntries entries
        pure (merged ++ others, own)
      else
        let built :=
          if key.tag.isCollection then
            .fail .collectionAsKey
          else if key.tag = .value then
            ofText .text (scalarText key)
          else
            build key
        let (merged, own) ← buildEntries entries
        pure (merged, (built, build value) :: own)

/-- The entries of a mapping, or of several, of which the first counts most. -/
def mergedEntries : Node → Except Defect (List BuiltEntry)
  | .mapping _ entries => do
      let (merged, own) ← buildEntries entries
      pure (merged ++ own)
  | .sequence _ items => do
      pure (← mergedItems items).reverse.flatten
  | .scalar _ _ => .error .unsuitableMerge

/-- The entries of several mappings. -/
def mergedItems : List Node → Except Defect (List (List BuiltEntry))
  | [] => .ok []
  | .mapping _ entries :: items => do
      let (merged, own) ← buildEntries entries
      pure ((merged ++ own) :: (← mergedItems items))
  | _ :: _ => .error .unsuitableMerge

end

end Node

/-- The value of a document.  Text without a document is null. -/
def readDocument (text : String) : Except Trouble Value := do
  match ← Node.ofTokens (Tokens.ofText text.toList) with
  | none => pure .null
  | some node =>
      match node.build with
      | .ok value => pure value
      | .error (_, trouble) => throw trouble

end PaneLayout.Yaml
