/-!
# Sums of whole numbers

The sum of a list of numbers.  Joining lists adds their sums.
-/

namespace PaneLayout

/-- The sum of numbers. -/
def total : List Nat → Nat
  | [] => 0
  | number :: numbers => number + total numbers

@[simp] theorem total_nil : total [] = 0 := rfl

@[simp] theorem total_cons (number : Nat) (numbers : List Nat) :
    total (number :: numbers) = number + total numbers := rfl

@[simp] theorem total_append (left right : List Nat) :
    total (left ++ right) = total left + total right := by
  induction left with
  | nil => simp
  | cons number numbers induction => simp [induction, Nat.add_assoc]

theorem total_le_of_sublist {part whole : List Nat}
    (sublist : part.Sublist whole) :
    total part ≤ total whole := by
  induction sublist with
  | slnil => exact Nat.le_refl 0
  | cons number _ induction =>
      rw [total_cons]
      omega
  | cons_cons number _ induction =>
      rw [total_cons, total_cons]
      omega

end PaneLayout
