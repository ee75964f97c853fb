import PaneLayout.Drawing.Table

/-!
# Panels

A panel is a frame as wide as the terminal, with a title in its upper and a
subtitle in its lower edge.
-/

namespace PaneLayout.Drawing

/-- An edge with a caption in the middle; an odd line character stands on the
right. -/
def edge (width : Nat) (left right : Char) (caption : List Char) : List Char :=
  if width ≤ 4 then
    left :: (List.replicate (width - 2) '─' ++ [right])
  else
    let room := width - 4
    let caption := truncate room .breakWords (' ' :: (caption ++ [' ']))
    let spare := room - cellCount caption
    [left, '─'] ++ List.replicate (spare / 2) '─' ++ caption ++
      List.replicate (spare - spare / 2) '─' ++ ['─', right]

/-- A caption on one line. -/
def caption (text : List Char) : List Char :=
  expandTabsFrom 0 (text.map fun c => if c == '\n' then ' ' else c)

/-- A frame around the lines that `content` draws on a given width. -/
def panel (width : Nat) (title subtitle : List Char)
    (content : Nat → List (List Char)) : List (List Char) :=
  let room := width - 4
  let inner := (content room).map fun line =>
    '│' :: ' ' :: (fitCells room line ++ [' ', '│'])
  edge width '╭' '╮' (caption title) :: inner ++
    [edge width '╰' '╯' (caption subtitle)]

end PaneLayout.Drawing
