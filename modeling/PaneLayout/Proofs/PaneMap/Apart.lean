import PaneLayout.Proofs.PaneMap

/-!
# Ids that are apart

Two ids are apart if neither of them is at or above the other.  What is recorded
for an id changes nothing that is found for an id apart from it.  So ids that
are apart from each other can be resolved in any order, and as often as one
likes: each of them is found in the same pane all the time.
-/

namespace PaneLayout.PaneMap

variable {panes : PaneMap} {id other realId : String}

theorem get?_register (nonblank : realId ≠ "") :
    (panes.register id realId).get? other =
      if id = other then some realId else panes.get? other := by
  rw [get?, register, Entries.get?_put]
  by_cases same : id = other
  · simp [same, nonblank]
  · simp [same, get?]

theorem get?_register_of_ne (different : id ≠ other) :
    (panes.register id realId).get? other = panes.get? other := by
  rw [get?, register, Entries.get?_put_of_ne different, get?]

theorem lookup_of_get? (recorded : panes.get? id = some realId) :
    panes.lookup id = some realId := by
  rw [lookup, recorded]
  rfl

theorem findSome?_get?_register {others : List String} (isNone : id ∉ others) :
    others.findSome? (panes.register id realId).get? =
      others.findSome? panes.get? := by
  induction others with
  | nil => rfl
  | cons other others induction =>
      rw [List.mem_cons, not_or] at isNone
      rw [List.findSome?_cons, List.findSome?_cons,
        get?_register_of_ne isNone.1, induction isNone.2]

theorem ofAncestor?_register_of_apart (apart : ¬ Related id other) :
    (panes.register id realId).ofAncestor? other = panes.ofAncestor? other :=
  findSome?_get?_register fun isAbove =>
    apart (.inl (.inr (mem_ancestors.mp isAbove)))

theorem ofDescendant?_register_of_apart (apart : ¬ Related id other) :
    (panes.register id realId).ofDescendant? other =
      panes.ofDescendant? other := by
  have notBelow : isAncestor other id = false := by
    rw [Bool.eq_false_iff]
    exact fun isBelow => apart (.inr (.inr isBelow))
  rw [ofDescendant?, ofDescendant?, register,
    Entries.find?_put_of_false fun _ => by simp [notBelow]]

/-- What is recorded for an id changes nothing for an id apart from it. -/
theorem lookup_register_of_apart (apart : ¬ Related id other) :
    (panes.register id realId).lookup other = panes.lookup other := by
  have different : id ≠ other := by
    rintro rfl
    exact apart (.inl (.refl id))
  rw [lookup, lookup, get?_register_of_ne different,
    ofAncestor?_register_of_apart apart, ofDescendant?_register_of_apart apart]

/-- Resolving an id changes nothing for itself, or for an id apart from it. -/
theorem lookup_resolve (apart : id = other ∨ ¬ Related id other) :
    (panes.resolve id).2.lookup other = panes.lookup other := by
  cases found : panes.lookup id with
  | none => rw [resolve_of_unknown found]
  | some realId =>
      rw [resolve_of_found found]
      rcases apart with rfl | apart
      · obtain ⟨_, _, _, nonblank⟩ := exists_of_lookup found
        rw [found]
        exact lookup_of_get? (by rw [get?_register nonblank, if_pos rfl])
      · exact lookup_register_of_apart apart

end PaneLayout.PaneMap
