import PaneLayout.Proofs.Entries

/-!
# The order of entries

The keys of entries stand in the order in which they first came, and the value
that came last counts.
-/

namespace PaneLayout

/-- One more item counts only if it has not come before. -/
theorem eraseDups_concat {α : Type} [DecidableEq α] (items : List α)
    (item : α) :
    (items ++ [item]).eraseDups =
      if item ∈ items.eraseDups then items.eraseDups
      else items.eraseDups ++ [item] := by
  rw [List.eraseDups_append]
  by_cases isKnown : item ∈ items <;>
    simp [isKnown, List.removeAll, List.eraseDups_cons]

namespace Entries

variable {α : Type}

theorem keys_put (key : String) (value : α) (entries : Entries α) :
    (entries.put key value).keys =
      if key ∈ entries.keys then entries.keys
      else entries.keys ++ [key] := by
  induction entries with
  | nil => rfl
  | cons entry rest induction =>
      obtain ⟨first, old⟩ := entry
      simp only [keys] at induction
      by_cases same : first = key
      · simp [put, keys, same]
      · have other : key ≠ first := Ne.symm same
        by_cases isKnown : key ∈ rest.map Prod.fst <;>
          simp [put, keys, same, other, isKnown, induction]

theorem keys_putAll {known additions : Entries α} {earlier : List String}
    (isKnown : known.keys = earlier.eraseDups) :
    (known.putAll additions).keys =
      (earlier ++ additions.keys).eraseDups := by
  induction additions generalizing known earlier with
  | nil =>
      rw [show keys ([] : Entries α) = [] from rfl, List.append_nil]
      exact isKnown
  | cons first rest induction =>
      rw [show keys (first :: rest) = first.1 :: keys rest from rfl,
        List.append_cons]
      have isPut : (known.put first.1 first.2).keys =
          (earlier ++ [first.1]).eraseDups := by
        rw [keys_put, isKnown, eraseDups_concat]
      exact induction isPut

theorem keys_ofList (additions : Entries α) :
    (ofList additions).keys = additions.keys.eraseDups :=
  @keys_putAll α [] additions [] rfl

theorem get?_putAll_of_ne {key : String} {known additions : Entries α}
    (different : ∀ entry ∈ additions, entry.1 ≠ key) :
    (known.putAll additions).get? key = known.get? key := by
  induction additions generalizing known with
  | nil => rfl
  | cons first rest induction =>
      rw [List.forall_mem_cons] at different
      rw [← get?_put_of_ne different.1 first.2 known]
      exact induction different.2

theorem get?_ofList_last {key : String} {value : α}
    {earlier later : Entries α} (isLast : ∀ entry ∈ later, entry.1 ≠ key) :
    (ofList (earlier ++ (key, value) :: later)).get? key = some value := by
  rw [ofList, putAll, List.foldl_append, List.foldl_cons]
  exact (get?_putAll_of_ne isLast).trans (get?_put_self _ _ _)

end Entries

end PaneLayout
