import PaneLayout.Entries
import PaneLayout.Value

/-!
# JSON values

The values that JSON can write.  Members of an object keep their order.  Every
JSON value is also a value of a document.
-/

namespace PaneLayout

inductive Json where
  | null
  | bool (value : Bool)
  | int (value : Int)
  | float (value : Float)
  | text (value : String)
  | array (items : List Json)
  | object (members : List (String × Json))
deriving Inhabited, BEq, Repr

namespace Json

mutual

/-- The document value that a JSON value is. -/
def toValue : Json → Value
  | .null => .null
  | .bool value => .bool value
  | .int value => .int value
  | .float value => .float value
  | .text value => .text value
  | .array items => .list (toValueList items)
  | .object members => .mapping (toValueMembers members)

def toValueList : List Json → List Value
  | [] => []
  | item :: items => item.toValue :: toValueList items

def toValueMembers : List (String × Json) → List (Value × Value)
  | [] => []
  | (key, item) :: members =>
      (.text key, item.toValue) :: toValueMembers members

end

end Json

end PaneLayout
