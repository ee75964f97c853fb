import PaneLayout.Drawing.Cells

/-!
# Lines of a given width

Text is broken into lines between words.  A word that is wider than a line is
either broken anywhere or cut off with an ellipsis.
-/

namespace PaneLayout.Drawing

/-- What becomes of words that are wider than a line. -/
inductive Overflow where
  | breakWords
  | ellipsis
deriving Repr, BEq, DecidableEq, Inhabited

/-- Where a word ends. -/
inductive WordMode where
  /-- Blanks before the first word. -/
  | before
  | inside
  /-- Blanks after a word, which belong to it. -/
  | after
deriving Repr, BEq, DecidableEq

/-- The words of a text with the blanks after them.  `word` is the current word,
last character first. -/
def wordsFrom : WordMode → List Char → List Char → List (List Char)
  | .before, _, [] => []
  | _, word, [] => [word.reverse]
  | mode, word, c :: rest =>
      if isBlank c then
        wordsFrom (if mode = .before then .before else .after) (c :: word) rest
      else if mode = .after then
        word.reverse :: wordsFrom .inside [c] rest
      else
        wordsFrom .inside (c :: word) rest

/-- The words of a text. -/
def words (text : List Char) : List (List Char) :=
  wordsFrom .before [] text

/-- Pieces of a text that take at most a number of cells each. -/
def chopFrom (width : Nat) : List Char → Nat → List Char → List (List Char)
  | line, _, [] => [line.reverse]
  | line, used, c :: rest =>
      if width < used + cellsOf c then
        line.reverse :: chopFrom width [c] (cellsOf c) rest
      else
        chopFrom width (c :: line) (used + cellsOf c) rest

/-- The places where pieces of a word begin, and the width of the last piece. -/
def pieceStarts : Nat → List (List Char) → List Nat × Nat
  | _, [] => ([], 0)
  | start, [piece] => ([start], cellCount piece)
  | start, piece :: pieces =>
      let (starts, used) := pieceStarts (start + piece.length) pieces
      (start :: starts, used)

/-- The places at which a text is broken.  `start` is the place of the next word
and `used` the width of the line so far. -/
def breaksFrom (width : Nat) (overflow : Overflow) :
    Nat → Nat → List (List Char) → List Nat
  | _, _, [] => []
  | start, used, word :: rest =>
      let needed := cellCount (dropEndWhile isBlank word)
      let next := start + word.length
      if used + needed ≤ width then
        breaksFrom width overflow next (used + cellCount word) rest
      else if width < needed then
        match overflow with
        | .breakWords =>
            let (starts, used) := pieceStarts start (chopFrom width [] 0 word)
            starts ++ breaksFrom width overflow next used rest
        | .ellipsis =>
            start :: breaksFrom width overflow next (cellCount word) rest
      else if used ≠ 0 ∧ start ≠ 0 then
        start :: breaksFrom width overflow next (cellCount word) rest
      else
        breaksFrom width overflow next used rest

/-- A text cut at several places, which count from its `start`. -/
def cutAt : Nat → List Nat → List Char → List (List Char)
  | _, [], text => [text]
  | start, place :: places, text =>
      text.take (place - start) :: cutAt place places (text.drop (place - start))

/-- A text with spaces instead of tabs, which go to the next eighth cell. -/
def expandTabsFrom : Nat → List Char → List Char
  | _, [] => []
  | column, c :: rest =>
      if c == '\t' then
        let count := 8 - column % 8
        List.replicate count ' ' ++ expandTabsFrom (column + count) rest
      else
        c :: expandTabsFrom (column + cellsOf c) rest

/-- A line without the blanks at its end that go beyond a width. -/
def trimBeyond (width : Nat) (line : List Char) : List Char :=
  let blanks := line.length - (dropEndWhile isBlank line).length
  line.take (line.length - min blanks (line.length - width))

/-- A line cut off at a width. -/
def truncate (width : Nat) (overflow : Overflow) (line : List Char) :
    List Char :=
  if cellCount line ≤ width then
    line
  else
    match overflow with
    | .breakWords => fitCells width line
    | .ellipsis => fitCells (width - 1) line ++ ['…']

/-- The lines of a text.  Without wrapping every line stays one line. -/
def wrap (width : Nat) (overflow : Overflow) (wraps : Bool)
    (text : List Char) : List (List Char) :=
  (splitWhere (· == '\n') text).flatMap fun line =>
    let line := expandTabsFrom 0 line
    let lines :=
      if wraps then
        let places := (breaksFrom width overflow 0 0 (words line)).filter (· != 0)
        cutAt 0 places line
      else
        [line]
    lines.map fun line => truncate width overflow (trimBeyond width line)

end PaneLayout.Drawing
