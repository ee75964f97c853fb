import PaneLayout.Drawing.Markup
import PaneLayout.Drawing.Wrap

/-!
# Tables

A table has columns of cells under headers.  Every cell has a blank on either
side, and a column is as wide as its widest cell.  Where the columns do not fit,
the widest of those that may be wrapped are narrowed first.

Headers and cells are markup.
-/

namespace PaneLayout.Drawing

/-- A column of a table. -/
structure Column where
  /-- The header and the cells below it. -/
  cells : List (List Char)
  /-- The cells may be wrapped to make room. -/
  wraps : Bool := true
deriving Repr, Inhabited

namespace Column

/-- A column from markup. -/
def ofMarkup (header : String) (cells : List String) (wraps : Bool) :
    Except Fault Column := do
  return ⟨← (header :: cells).mapM Markup.shown, wraps⟩

/-- A character that ends a line when text is measured. -/
def endsMeasuredLine (c : Char) : Bool :=
  let code := c.toNat
  (0x0A ≤ code && code ≤ 0x0D) || (0x1C ≤ code && code ≤ 0x1E) ||
    code == 0x85 || code == 0x2028 || code == 0x2029

/-- The width of a text's widest line. -/
def textWidth (text : List Char) : Nat :=
  (((splitWhere endsMeasuredLine text).map cellCount).max?).getD 0

/-- The width of a column that may be at most `room` cells wide. -/
def width (room : Nat) (column : Column) : Nat :=
  let cellWidth := fun text => if room < 3 then room else min (textWidth text + 2) room
  ((column.cells.map cellWidth).max?).getD 0

end Column

/-- The quotient of two numbers, rounded to the nearest whole number, a half to
the even one. -/
def roundQuotient (numerator denominator : Nat) : Nat :=
  let quotient := numerator / denominator
  let twice := 2 * (numerator % denominator)
  if denominator < twice || (twice = denominator && quotient % 2 = 1) then
    quotient + 1
  else
    quotient

/-- Takes an excess away from the widths that are marked, evenly and at most
`limit` from each.  `marked` is the number of marked widths that are left. -/
def reduceFrom (limit : Nat → Nat) : Nat → Nat → List (Nat × Bool) → List Nat
  | _, _, [] => []
  | excess, marked, (width, isMarked) :: rest =>
      if isMarked && 0 < marked then
        let share := min (limit width) (roundQuotient excess marked)
        (width - share) :: reduceFrom limit (excess - share) (marked - 1) rest
      else
        width :: reduceFrom limit excess marked rest

/-- Takes an excess away from the widths that are marked. -/
def reduce (limit : Nat → Nat) (excess : Nat) (widths : List (Nat × Bool)) :
    List Nat :=
  let widths := widths.map fun (width, isMarked) =>
    (width, isMarked && limit width != 0)
  reduceFrom limit excess (widths.countP Prod.snd) widths

/-- Narrows the widest columns that may be wrapped, again and again, until the
widths fit or all of those columns are equally wide.  The first argument bounds
the number of rounds. -/
def collapse (room : Nat) : Nat → List (Nat × Bool) → List (Nat × Bool)
  | 0, widths => widths
  | rounds + 1, widths =>
      let excess := total (widths.map Prod.fst) - room
      let wrapped := (widths.filter Prod.snd).map Prod.fst
      match wrapped.max? with
      | none => widths
      | some widest =>
          let next := ((wrapped.filter (· != widest)).max?).getD 0
          if excess = 0 ∨ widest = next then
            widths
          else
            let marked := widths.map fun (width, wraps) =>
              (width, wraps && width == widest)
            let reduced := reduce (fun _ => min excess (widest - next)) excess marked
            collapse room rounds (reduced.zip (widths.map Prod.snd))

/-- The widths of columns that may take `room` cells together. -/
def columnWidths (room : Nat) (columns : List Column) : List Nat :=
  let widths := columns.map fun column => max 1 (column.width room)
  if total widths ≤ room then
    widths
  else
    let collapsed := (collapse room (total widths)
      (widths.zip (columns.map Column.wraps))).map Prod.fst
    let narrowed :=
      if room < total collapsed then
        reduce id (total collapsed - room) (collapsed.map fun width => (width, true))
      else
        collapsed
    (columns.zip narrowed).map fun (column, width) => column.width width

/-- The lines of a cell in a column of a given width. -/
def cellLines (width : Nat) (wraps : Bool) (text : List Char) :
    List (List Char) :=
  if width ≤ 2 then
    []
  else
    (wrap (width - 2) .ellipsis wraps text).map fun line =>
      ' ' :: (fitCells (width - 2) line ++ [' '])

/-- The lines of a row, each a list of the parts in its columns. -/
def rowLines (cells : List (Nat × Bool × List Char)) :
    List (List (List Char)) :=
  let drawn := cells.map fun (width, wraps, text) =>
    (width, cellLines width wraps text)
  let height := ((drawn.map fun (_, lines) => lines.length).max?).getD 0
  (List.range (max 1 height)).map fun index =>
    drawn.map fun (width, lines) =>
      fitCells width ((lines[index]?).getD [])

/-- The cells of the rows, the headers first. -/
def rowsOf (columns : List Column) (widths : List Nat) :
    List (List (Nat × Bool × List Char)) :=
  let height := ((columns.map fun column => column.cells.length).max?).getD 0
  (List.range height).map fun index =>
    (columns.zip widths).map fun (column, width) =>
      (width, column.wraps, (column.cells[index]?).getD [])

/-- The lines of a table without borders. -/
def openTable (room : Nat) (columns : List Column) : List (List Char) :=
  if room = 0 then [] else
  let widths := columnWidths room columns
  ((rowsOf columns widths).flatMap rowLines).map List.flatten

/-- The four kinds of characters in a line between rows. -/
structure Border where
  left : Char
  line : Char
  crossing : Char
  right : Char

/-- A line between rows. -/
def Border.draw (border : Border) (widths : List Nat) : List Char :=
  let parts := widths.map fun width => List.replicate width border.line
  border.left :: ([border.crossing].intercalate parts ++ [border.right])

/-- A line of a row between vertical bars. -/
def barred (bar : Char) (parts : List (List Char)) : List Char :=
  bar :: ([bar].intercalate parts ++ [bar])

/-- Where a title stands above a table. -/
inductive TitlePlace where
  | centre
  | left
deriving Repr, BEq, DecidableEq

/-- A text in the middle of a line; an odd blank stands on the right. -/
def centred (width : Nat) (line : List Char) : List Char :=
  let line := dropEndWhile isBlank line
  let left := (width - cellCount line) / 2
  padCells width (List.replicate left ' ' ++ line)

/-- The lines of a table with borders and a title. -/
def borderedTable (room : Nat) (title : String) (place : TitlePlace)
    (columns : List Column) : List (List Char) :=
  let borders := columns.length + 1
  let widths := columnWidths (room - borders) columns
  let wide := total widths + borders
  let titleLines := (wrap wide .breakWords true title.toList).map fun line =>
    match place with
    | .centre => centred wide line
    | .left => padCells wide line
  match rowsOf columns widths with
  | [] => titleLines
  | header :: rows =>
      titleLines ++ [Border.draw ⟨'┏', '━', '┳', '┓'⟩ widths] ++
        (rowLines header).map (barred '┃') ++
        [Border.draw ⟨'┡', '━', '╇', '┩'⟩ widths] ++
        (rows.flatMap rowLines).map (barred '│') ++
        [Border.draw ⟨'└', '─', '┴', '┘'⟩ widths]

/-- What draws tables on a terminal. -/
structure Console where
  /-- The text that markup shows. -/
  shown : String → Except Fault (List Char)
  /-- The lines of a table with a title, headers, and rows of cells. -/
  table : String → List (List Char) → List (List (List Char)) → List (List Char)

/-- The columns of a table, one for every header. -/
def columnsOf (headers : List (List Char)) (rows : List (List (List Char))) :
    List Column :=
  (List.range headers.length).map fun index =>
    { cells := (headers :: rows).map fun cells => (cells[index]?).getD [] }

/-- A terminal of a given width. -/
def Console.ofWidth (width : Nat) : Console where
  shown := Markup.shown
  table title headers rows :=
    borderedTable width title .centre (columnsOf headers rows)

end PaneLayout.Drawing
