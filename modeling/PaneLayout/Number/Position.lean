/-!
# Positions counted from either end

A position below zero counts from the end of a list.  Taking an element needs a
position inside the list; taking the rest of a list from a position on never
fails.
-/

namespace PaneLayout

variable {α : Type}

/-- The element at a position. -/
def elementAt? (items : List α) (position : Int) : Option α :=
  if 0 ≤ position then
    items[position.toNat]?
  else if -position ≤ items.length then
    items[(items.length + position).toNat]?
  else
    none

/-- The elements from a position on. -/
def restFrom (items : List α) (position : Int) : List α :=
  if 0 ≤ position then
    items.drop position.toNat
  else
    items.drop (items.length + position).toNat

@[simp] theorem elementAt?_ofNat (items : List α) (position : Nat) :
    elementAt? items position = items[position]? := by
  simp [elementAt?]

@[simp] theorem restFrom_ofNat (items : List α) (position : Nat) :
    restFrom items position = items.drop position := by
  simp [restFrom]

end PaneLayout
