import PaneLayout.Text.Quoted
import PaneLayout.Yaml.QuotedScalar
import PaneLayout.Yaml.ScalarStyle

/-!
# Pages of YAML text

A page is text that is being written.  It knows the column that has been
reached, so that a scalar which goes beyond the width of the page is continued
on a line of its own at the next space.
-/

namespace PaneLayout.Yaml

/-- Text that is being written. -/
structure Page where
  /-- The text, last character first. -/
  written : List Char := []
  column : Nat := 0
  /-- The last thing written separates words. -/
  afterBlank : Bool := true
  /-- The line holds nothing but indentation and indicators. -/
  isFresh : Bool := true
deriving Repr, Inhabited

namespace Page

/-- The column after which a scalar is continued on the next line. -/
def width : Nat := 80

/-- Adds characters to the line. -/
def put (page : Page) (text : List Char) : Page :=
  { page with
    written := text.reverse ++ page.written
    column := page.column + text.length }

/-- Begins a line. -/
def newLine (page : Page) : Page :=
  { written := '\n' :: page.written, column := 0, afterBlank := true,
    isFresh := true }

/-- Goes to an indentation, on a new line if something stands in the way. -/
def toIndent (page : Page) (indent : Nat) : Page :=
  let page :=
    if !page.isFresh || indent < page.column ||
        (page.column = indent && !page.afterBlank) then
      page.newLine
    else
      page
  if page.column < indent then
    { page.put (List.replicate (indent - page.column) ' ') with
      afterBlank := true }
  else
    page

/-- The line holds more than indicators from here on. -/
def settled (page : Page) : Page :=
  { page with afterBlank := false, isFresh := false }

/-- Separates what follows from what stands before. -/
def separated (page : Page) : Page :=
  if page.afterBlank then page else page.put [' ']

/-- Writes an indicator that begins a node or an entry.  After a hyphen, a
question mark or a colon of its own the line is as fresh as before. -/
def indicator (page : Page) (mark : String) (keepsFresh : Bool) : Page :=
  { page.separated.put mark.toList with
    afterBlank := false
    isFresh := page.isFresh && keepsFresh }

/-- Writes an indicator directly after what stands before. -/
def closing (page : Page) (mark : String) : Page :=
  (page.put mark.toList).settled

/-- What stands between two words of a scalar. -/
inductive Gap where
  | none
  /-- Spaces, and whether they stand at the beginning. -/
  | spaces (count : Nat) (leading : Bool)
  | breaks (count : Nat)

/-- Writes a gap before the next word, or at the end of the text.  A single
space inside the text may become a new line. -/
def putGap (page : Page) (indent : Nat) (canSplit quoted atEnd : Bool) :
    Gap → Page
  | .none => page
  | .spaces count leading =>
      if count = 1 && width < page.column && canSplit &&
          !(quoted && (leading || atEnd)) then
        if quoted then page.toIndent indent else (page.toIndent indent).settled
      else
        page.put (List.replicate count ' ')
  | .breaks count =>
      (Nat.repeat newLine (count + 1) page).toIndent indent

/-- Writes the words of a text from the first or a later character on.  A single
quote inside quotes is written twice. -/
def putWords (indent : Nat) (canSplit quoted : Bool) :
    Page → Bool → Gap → List Char → Page
  | page, _, gap, [] => page.putGap indent canSplit quoted true gap
  | page, isFirst, gap, c :: rest =>
      if c == ' ' then
        match gap with
        | .spaces count leading =>
            putWords indent canSplit quoted page false
              (.spaces (count + 1) leading) rest
        | gap =>
            let page := page.putGap indent canSplit quoted false gap
            putWords indent canSplit quoted page false (.spaces 1 isFirst) rest
      else if c == '\n' then
        match gap with
        | .breaks count =>
            putWords indent canSplit quoted page false (.breaks (count + 1)) rest
        | gap =>
            let page := page.putGap indent canSplit quoted false gap
            putWords indent canSplit quoted page false (.breaks 1) rest
      else
        let page := page.putGap indent canSplit quoted false gap
        let page := page.put (if quoted && c == '\'' then ['\'', '\''] else [c])
        putWords indent canSplit quoted page false .none rest

/-- The character that stands for another one after a backslash. -/
def shortEscape? (c : Char) : Option Char :=
  if c == '/' || c == ' ' then
    none
  else
    (shortEscapes.find? fun (letter, meaning) =>
      meaning == c && letter != '\t').map Prod.fst

/-- The code point of a character in upper case. -/
def upperHex (width : Nat) (n : Nat) : List Char :=
  (hexText width n).toList.map Char.toUpper

/-- A character as an escape. -/
def escape (c : Char) : List Char :=
  match shortEscape? c with
  | some letter => ['\\', letter]
  | none =>
      let code := codePoint c
      if code ≤ 0xFF then
        '\\' :: 'x' :: upperHex 2 code
      else if code ≤ 0xFFFF then
        '\\' :: 'u' :: upperHex 4 code
      else
        '\\' :: 'U' :: upperHex 8 code

/-- A character that stands for itself between double quotes. -/
def isVerbatim (c : Char) : Bool :=
  0x20 ≤ c.toNat && c.toNat ≤ 0x7E && c != '"' && c != '\\'

/-- Continues a scalar between double quotes on the next line, after a backslash.
A space at the beginning of that line needs a backslash as well. -/
def continueLine (page : Page) (indent : Nat) (next : Option Char) : Page :=
  let page := ((page.put ['\\']).toIndent indent).settled
  if next == some ' ' then page.put ['\\'] else page

/-- Writes the characters of a text between double quotes.  `pending` are
characters of the current line that have not been written yet. -/
def putEscaped (indent : Nat) (canSplit : Bool) :
    Page → Bool → List Char → List Char → Page
  | page, _, pending, [] => page.put pending
  | page, isFirst, pending, c :: rest =>
      let isInner := !isFirst && !rest.isEmpty && canSplit
      if isVerbatim c then
        if isInner && (c == ' ' || pending.isEmpty) &&
            width < page.column + pending.length then
          let page := (page.put pending).continueLine indent (some c)
          putEscaped indent canSplit page false [c] rest
        else
          putEscaped indent canSplit page false (pending ++ [c]) rest
      else
        let page := (page.put pending).put (escape c)
        if isInner && width + 1 < page.column then
          let page := page.continueLine indent rest.head?
          putEscaped indent canSplit page false [] rest
        else
          putEscaped indent canSplit page false [] rest

/-- Writes a text as a scalar.  A key on one line is not split. -/
def putScalar (page : Page) (indent : Nat) ( isLineKey : Bool) (text : String) :
    Page :=
  let characters := text.toList
  let canSplit := !isLineKey
  match ScalarStyle.ofText characters isLineKey with
  | .plain =>
      putWords indent canSplit false page.separated.settled true .none characters
  | .single =>
      (putWords indent canSplit true (page.indicator "'" false) true .none
        characters).closing "'"
  | .double =>
      (putEscaped indent canSplit (page.indicator "\"" false) true []
        characters).closing "\""

/-- Writes a word that is not text. -/
def putWord (page : Page) (word : String) : Page :=
  page.separated.settled.put word.toList

/-- The text of a page. -/
def text (page : Page) : String :=
  String.ofList page.written.reverse

end Page

end PaneLayout.Yaml
