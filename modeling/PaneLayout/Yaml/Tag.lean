import PaneLayout.Text.Blank
import PaneLayout.Yaml.Moment

/-!
# Kinds of nodes

A node is of a kind that its tag names.  A plain scalar without a tag is of the
kind that its text looks like: truth values, null, numbers in several bases,
dates, and the two special keys `<<` and `=`; everything else is text.
-/

namespace PaneLayout.Yaml

/-- The kind of a node. -/
inductive Tag where
  | null
  | bool
  | int
  | float
  | binary
  | timestamp
  | text
  | sequence
  | mapping
  | set
  | orderedMapping
  | pairs
  /-- The key whose value is merged into the mapping. -/
  | merge
  /-- The key whose value stands for the mapping. -/
  | value
  /-- A tag without meaning. -/
  | unknown
deriving Repr, BEq, DecidableEq, Inhabited

namespace Tag

/-- What the tags of the language begin with. -/
def languageStart : String := "tag:yaml.org,2002:"

/-- The tags of the language. -/
def ofName : List (String × Tag) :=
  [("null", .null), ("bool", .bool), ("int", .int), ("float", .float),
   ("binary", .binary), ("timestamp", .timestamp), ("str", .text),
   ("seq", .sequence), ("map", .mapping), ("set", .set),
   ("omap", .orderedMapping), ("pairs", .pairs), ("merge", .merge),
   ("value", .value)]

/-- The kind that a whole tag names. -/
def ofUri (uri : String) : Tag :=
  let named := ofName.find? fun (name, _) => languageStart ++ name == uri
  (named.map Prod.snd).getD .unknown

/-- A node of this kind is built from its parts. -/
def isCollection : Tag → Bool
  | .sequence => true
  | .mapping => true
  | .set => true
  | .orderedMapping => true
  | .pairs => true
  | _ => false

def boolWords : List String :=
  ["yes", "Yes", "YES", "no", "No", "NO", "true", "True", "TRUE", "false",
   "False", "FALSE", "on", "On", "ON", "off", "Off", "OFF"]

def nullWords : List String := ["~", "null", "Null", "NULL"]

/-- A digit or an underscore. -/
def isDigitOrMark (c : Char) : Bool :=
  c.isDigit || c == '_'

/-- A text without its sign. -/
def dropSign : List Char → List Char
  | '+' :: rest => rest
  | '-' :: rest => rest
  | unsigned => unsigned

/-- A digit, and digits and underscores after it. -/
def isDigits : List Char → Bool
  | [] => false
  | c :: rest => c.isDigit && rest.all isDigitOrMark

/-- A digit other than zero, and digits and underscores after it. -/
def isNonzeroDigits (text : List Char) : Bool :=
  isDigits text && text.head? != some '0'

/-- A number below sixty in one digit or two. -/
def isSixtieth : List Char → Bool
  | [a] => a.isDigit
  | [a, b] => '0' ≤ a && a ≤ '5' && b.isDigit
  | _ => false

/-- Several numbers joined by colons, all but the first below sixty. -/
def isSexagesimal (isFirst : List Char → Bool) (text : List Char) : Bool :=
  match splitWhere (· == ':') text with
  | first :: second :: others =>
      isFirst first && isSixtieth second && others.all isSixtieth
  | _ => false

/-- The text looks like a whole number. -/
def isInt (text : List Char) : Bool :=
  let body := dropSign text
  body == ['0'] || isNonzeroDigits body || isSexagesimal isNonzeroDigits body ||
    match body with
    | '0' :: 'b' :: digits =>
        !digits.isEmpty && digits.all fun c => c == '0' || c == '1' || c == '_'
    | '0' :: 'x' :: digits =>
        !digits.isEmpty && digits.all fun c =>
          isDigitOrMark c || ('a' ≤ c && c ≤ 'f') || ('A' ≤ c && c ≤ 'F')
    | '0' :: digits =>
        !digits.isEmpty && digits.all fun c => ('0' ≤ c && c ≤ '7') || c == '_'
    | _ => false

/-- Nothing, or an exponent with a sign. -/
def isExponent : List Char → Bool
  | [] => true
  | letter :: sign :: digits =>
      (letter == 'e' || letter == 'E') && (sign == '+' || sign == '-') &&
        !digits.isEmpty && digits.all Char.isDigit
  | _ => false

/-- The text looks like a double: it has a decimal point. -/
def isFloat (text : List Char) : Bool :=
  let body := dropSign text
  let whole := body.takeWhile (· != '.')
  match body.dropWhile (· != '.') with
  | [] => false
  | _ :: fraction =>
      let isSigned := body.length != text.length
      let afterFraction := fraction.dropWhile isDigitOrMark
      let isName := fun names : List String =>
        whole.isEmpty && names.contains (String.ofList fraction)
      (isDigits whole && isExponent afterFraction) ||
        (!isSigned && whole.isEmpty &&
          isDigits (fraction.takeWhile isDigitOrMark) &&
          isExponent afterFraction) ||
        (isSexagesimal isDigits whole && afterFraction.isEmpty) ||
        isName ["inf", "Inf", "INF"] ||
        (!isSigned && isName ["nan", "NaN", "NAN"])

/-- The text looks like a date or a timestamp. -/
def isMoment (text : List Char) : Bool :=
  match Moment.read? text with
  | some moment => moment.isEvident
  | none => false

/-- A text without a line feed at its end. -/
def dropFinalBreak (text : List Char) : List Char :=
  match text.reverse with
  | '\n' :: rest => rest.reverse
  | _ => text

/-- The kind of a plain scalar.  A line feed at the end does not matter. -/
def ofPlain (text : List Char) : Tag :=
  if text.isEmpty then
    .null
  else
    let body := dropFinalBreak text
    let word := String.ofList body
    if boolWords.contains word then
      .bool
    else if nullWords.contains word then
      .null
    else if isFloat body then
      .float
    else if isInt body then
      .int
    else if isMoment body then
      .timestamp
    else if word = "<<" then
      .merge
    else if word = "=" then
      .value
    else if ["!", "&", "*"].contains word then
      .unknown
    else
      .text

end Tag

end PaneLayout.Yaml
