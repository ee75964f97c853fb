import Mathlib.Data.List.Basic
import PaneLayout.Drawing.Table

/-!
# Rows of a table

A table is drawn row by row.  Each row has lines of its own, at least one, which
depend on its cells and on the widths of the columns.
-/

namespace PaneLayout.Drawing

/-- The rows of every table are drawn one below the other, each with at least one
line. -/
def Console.DrawsRows (console : Console) : Prop :=
  ∀ title headers rows, headers ≠ [] →
    ∃ above below, ∃ block : List (List Char) → List (List Char),
      (∀ cells, block cells ≠ []) ∧
      console.table title headers rows = above ++ rows.flatMap block ++ below

theorem rowLines_ne_nil (cells : List (Nat × Bool × List Char)) :
    rowLines cells ≠ [] := by
  intro noLines
  have length := congrArg List.length noLines
  simp only [rowLines, List.length_map, List.length_range,
    List.length_nil] at length
  omega

/-- The cells of a row in columns of given widths. -/
def cellsIn (count : Nat) (widths : List Nat) (cells : List (List Char)) :
    List (Nat × Bool × List Char) :=
  ((List.range count).zip widths).map fun (index, width) =>
    (width, true, (cells[index]?).getD [])

theorem rowsOf_columnsOf {headers : List (List Char)} (nonempty : headers ≠ [])
    (rows : List (List (List Char))) (widths : List Nat) :
    rowsOf (columnsOf headers rows) widths =
      (headers :: rows).map (cellsIn headers.length widths) := by
  have same : ((columnsOf headers rows).map fun column =>
      column.cells.length) =
        List.replicate headers.length (headers :: rows).length := by
    refine List.eq_replicate_iff.mpr ⟨by simp [columnsOf], ?_⟩
    simp [columnsOf]
  have height : (((columnsOf headers rows).map fun column =>
      column.cells.length).max?).getD 0 = (headers :: rows).length := by
    rw [same, List.max?_replicate_of_pos (List.length_pos_iff.mpr nonempty),
      Option.getD_some]
  unfold rowsOf
  rw [height]
  refine List.ext_getElem (by simp) fun index _ inRange => ?_
  rw [List.length_map] at inRange
  simp only [List.getElem_map, List.getElem_range, columnsOf, List.zip_map_left,
    List.map_map, cellsIn]
  refine List.map_congr_left fun entry _ => ?_
  simp only [Function.comp_apply, Prod.map, id_eq, List.getElem?_map,
    List.getElem?_eq_getElem inRange, Option.map_some, Option.getD_some]

theorem borderedTable_of_rowsOf {room : Nat} {columns : List Column}
    {header : List (Nat × Bool × List Char)}
    {rows : List (List (Nat × Bool × List Char))}
    (isRows : rowsOf columns (columnWidths (room - (columns.length + 1)) columns) =
      header :: rows) (title : String) (place : TitlePlace) :
    ∃ above below, borderedTable room title place columns =
      above ++ (rows.flatMap rowLines).map (barred '│') ++ below := by
  unfold borderedTable
  simp only [isRows]
  exact ⟨_, _, rfl⟩

/-- The lines of a row between the borders of a table. -/
def rowBlock (count : Nat) (widths : List Nat) (cells : List (List Char)) :
    List (List Char) :=
  (rowLines (cellsIn count widths cells)).map (barred '│')

/-- A terminal draws tables row by row. -/
theorem ofWidth_drawsRows (width : Nat) : (Console.ofWidth width).DrawsRows := by
  intro title headers rows nonempty
  let columns := columnsOf headers rows
  let widths := columnWidths (width - (columns.length + 1)) columns
  obtain ⟨above, below, drawn⟩ :=
    borderedTable_of_rowsOf (rowsOf_columnsOf nonempty rows widths) title .centre
  refine ⟨above, below, rowBlock headers.length widths, fun cells noLines => ?_,
    drawn.trans ?_⟩
  · exact rowLines_ne_nil _ (List.map_eq_nil_iff.mp noLines)
  · rw [List.flatMap_map, List.map_flatMap]
    rfl

end PaneLayout.Drawing
