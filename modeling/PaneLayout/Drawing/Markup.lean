import PaneLayout.Drawing.Emoji
import PaneLayout.Fault

/-!
# Markup

Text for a terminal may contain tags in square brackets that change its style.
On a terminal without styles only the tags disappear.  Backslashes before a tag
make it part of the text; `escape` puts them there.  Names of emoji between
colons become the emoji.
-/

namespace PaneLayout.Markup

/-- A piece of a marked text. -/
inductive Piece where
  | plain (text : List Char)
  /-- A tag, and the number of backslashes before it. -/
  | tag (backslashes : Nat) (content : List Char)
deriving Repr, BEq, Inhabited

/-- The first character of a tag. -/
def startsTag (c : Char) : Bool :=
  ('a' ≤ c && c ≤ 'z') || c == '#' || c == '/' || c == '@'

/-- What has been read since the last piece. -/
inductive Mode where
  /-- Backslashes. -/
  | text (backslashes : Nat)
  /-- Backslashes, a bracket, and the content so far, last character first. -/
  | tag (backslashes : Nat) (content : List Char)

def backslashes (count : Nat) : List Char :=
  List.replicate count '\\'

/-- Puts text before pieces. -/
def consPlain (text : List Char) : List Piece → List Piece
  | .plain more :: pieces => .plain (text ++ more) :: pieces
  | pieces => if text.isEmpty then pieces else .plain text :: pieces

/-- The mode after a character outside a tag, and the text that it completes. -/
def Mode.ofText (count : Nat) (c : Char) : List Char × Mode :=
  if c == '\\' then
    ([], .text (count + 1))
  else if c == '[' then
    ([], .tag count [])
  else
    (backslashes count ++ [c], .text 0)

/-- Splits a text into plain text and tags. -/
def piecesFrom : Mode → List Char → List Piece
  | .text count, [] => consPlain (backslashes count) []
  | .tag count content, [] =>
      consPlain (backslashes count ++ '[' :: content.reverse) []
  | .text count, c :: rest =>
      let (text, mode) := Mode.ofText count c
      consPlain text (piecesFrom mode rest)
  | .tag count [], c :: rest =>
      if startsTag c then
        piecesFrom (.tag count [c]) rest
      else
        let (text, mode) := Mode.ofText 0 c
        consPlain (backslashes count ++ '[' :: text) (piecesFrom mode rest)
  | .tag count (last :: content), c :: rest =>
      if c == ']' then
        .tag count (last :: content).reverse :: piecesFrom (.text 0) rest
      else if c == '[' then
        let trailing := ((last :: content).takeWhile (· == '\\')).length
        let text := ((last :: content).drop trailing).reverse
        consPlain (backslashes count ++ '[' :: text)
          (piecesFrom (.tag trailing []) rest)
      else
        piecesFrom (.tag count (c :: last :: content)) rest

/-- The pieces of a text. -/
def pieces (text : List Char) : List Piece :=
  piecesFrom (.text 0) text

/-- A piece with its tag made part of the text. -/
def Piece.escaped : Piece → List Char
  | .plain text => text
  | .tag count content =>
      backslashes (2 * count + 1) ++ '[' :: (content ++ [']'])

/-- Markup that shows a text as it is.  A single backslash at the end is
doubled, so that it has no effect on what follows. -/
def escape (text : String) : String :=
  let escaped := (pieces text.toList).flatMap Piece.escaped
  let endsSingle := match escaped.reverse with
    | '\\' :: '\\' :: _ => false
    | '\\' :: _ => true
    | _ => false
  String.ofList (if endsSingle then escaped ++ ['\\'] else escaped)

/-- The name of a tag: its content up to an equals sign, without regard to
case and to blanks around it. -/
def tagName (content : List Char) : List Char :=
  (trimBlanks (content.takeWhile (· != '='))).map Char.toLower

/-- Plain text without the backslashes before its brackets. -/
def dropBackslashes : List Char → List Char
  | '\\' :: '[' :: rest => '[' :: dropBackslashes rest
  | c :: rest => c :: dropBackslashes rest
  | [] => []

/-- The text that pieces show, given the names of the open tags.  A tag that
begins with a slash must close one of them. -/
def shownFrom : List (List Char) → List Piece → Except Fault (List Char)
  | _, [] => .ok []
  | opened, .plain text :: rest =>
      return Emoji.replace (dropBackslashes text) ++ (← shownFrom opened rest)
  | opened, .tag count content :: rest => do
      let before := backslashes (count / 2)
      if count % 2 = 1 then
        return before ++ Emoji.replace ('[' :: (content ++ [']'])) ++
          (← shownFrom opened rest)
      else
        match content with
        | '/' :: closing =>
            let name := tagName closing
            match name, opened with
            | [], _ :: opened => return before ++ (← shownFrom opened rest)
            | name, opened =>
                if opened.contains name && !name.isEmpty then
                  return before ++ (← shownFrom (opened.erase name) rest)
                else
                  throw .unopenedTag
        | content =>
            return before ++ (← shownFrom (tagName content :: opened) rest)

/-- A control character that moves the cursor or rings a bell. -/
def isSilentControl (c : Char) : Bool :=
  [7, 8, 11, 12, 13].contains c.toNat

/-- The text that markup shows. -/
def shown (text : String) : Except Fault (List Char) := do
  return (← shownFrom [] (pieces text.toList)).filter fun c => !isSilentControl c

end PaneLayout.Markup
