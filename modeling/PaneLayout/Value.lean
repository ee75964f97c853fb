import PaneLayout.Calendar
import PaneLayout.Number.Binary64
import PaneLayout.Text.Surrogate

/-!
# Values of a document

A preset document is a tree of values: scalars of several kinds, lists, sets and
mappings, whose keys may be values of any kind.  Mappings keep the order of
their entries.

A text may hold surrogates, for which certain private code points stand.

Two values agree when a mapping would take them for the same key.  Whole
numbers, doubles and booleans agree when they are numerically equal, a boolean
counting as zero or one; the order of mappings and sets does not matter.
-/

namespace PaneLayout

/-- A value read from a document. -/
inductive Value where
  | null
  | bool (value : Bool)
  | int (value : Int)
  | float (value : Float)
  | text (value : String)
  | bytes (octets : List UInt8)
  | date (value : Date)
  | timestamp (value : Timestamp)
  | list (items : List Value)
  /-- A sequence that is not a list. -/
  | tuple (items : List Value)
  | set (members : List Value)
  | mapping (entries : List (Value × Value))
deriving Inhabited, BEq, Repr

namespace Value

/-- The number that a scalar counts as, split into whole and other numbers. -/
def numeric? : Value → Option (Int ⊕ Float)
  | .bool value => some (.inl (if value then 1 else 0))
  | .int value => some (.inl value)
  | .float value =>
      match Binary64.whole? value with
      | some whole => some (.inl whole)
      | none => some (.inr value)
  | _ => none

/-- Scalars agree when they are of one kind and equal, or numerically equal. -/
def agreesScalar (left right : Value) : Bool :=
  match left.numeric?, right.numeric? with
  | some (.inl left), some (.inl right) => left == right
  | some (.inr left), some (.inr right) => left.toBits == right.toBits
  | none, none =>
      match left, right with
      | .null, .null => true
      | .text left, .text right => left == right
      | .bytes left, .bytes right => left == right
      | .date left, .date right => left == right
      | .timestamp left, .timestamp right => left.agrees right
      | _, _ => false
  | _, _ => false

mutual

/-- Whether two values are the same key. -/
def agrees : Value → Value → Bool
  | .list left, .list right => agreesList left right
  | .tuple left, .tuple right => agreesList left right
  | .set left, .set right =>
      left.length == right.length && agreesMembers left right
  | .mapping left, .mapping right =>
      left.length == right.length && agreesEntries left right
  | left, right => agreesScalar left right

/-- Two sequences agree element by element. -/
def agreesList : List Value → List Value → Bool
  | [], [] => true
  | left :: lefts, right :: rights => agrees left right && agreesList lefts rights
  | _, _ => false

/-- Every member of the first collection agrees with one of the second. -/
def agreesMembers : List Value → List Value → Bool
  | [], _ => true
  | member :: members, others =>
      others.any (agrees member) && agreesMembers members others

/-- Every entry of the first mapping agrees with one of the second. -/
def agreesEntries : List (Value × Value) → List (Value × Value) → Bool
  | [], _ => true
  | (key, value) :: entries, others =>
      (others.any fun other => agrees key other.1 && agrees value other.2) &&
        agreesEntries entries others

end

/-- The entries after a key has been given a value: an agreeing key keeps its
place and its own form, a new one comes last. -/
def putEntry (key value : Value) :
    List (Value × Value) → List (Value × Value)
  | [] => [(key, value)]
  | (other, old) :: rest =>
      if agrees key other then
        (other, value) :: rest
      else
        (other, old) :: putEntry key value rest

/-- A mapping from entries of which later ones replace earlier ones. -/
def ofEntries (entries : List (Value × Value)) : Value :=
  .mapping (entries.foldl (fun known (key, value) => putEntry key value known) [])

/-- The members after one more has been added, unless one agrees with it. -/
def addMember (members : List Value) (member : Value) : List Value :=
  if members.any (agrees member) then members else members ++ [member]

/-- A set from values of which the first of several agreeing ones is kept. -/
def ofMembers (members : List Value) : Value :=
  .set (members.foldl addMember [])

/-- The value is the given text. -/
def isText (expected : String) : Value → Bool
  | .text value => value == expected
  | _ => false

/-- The value under a text key. -/
def lookup (entries : List (Value × Value)) (key : String) : Option Value :=
  (entries.find? fun entry => entry.1.isText key).map Prod.snd

/-- A text key is present. -/
def hasKey (entries : List (Value × Value)) (key : String) : Bool :=
  (lookup entries key).isSome

/-- The text of a text value. -/
def text? : Value → Option String
  | .text value => some value
  | _ => none

/-- The value is the boolean true itself. -/
def isTrue : Value → Bool
  | .bool true => true
  | _ => false

mutual

/-- A value that can be a key or a member of a set. -/
def isHashable : Value → Bool
  | .list _ => false
  | .set _ => false
  | .mapping _ => false
  | .tuple items => isHashableList items
  | _ => true

/-- Every item can be a key. -/
def isHashableList : List Value → Bool
  | [] => true
  | item :: items => item.isHashable && isHashableList items

end

end Value

end PaneLayout
