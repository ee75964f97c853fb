import Mathlib.Data.String.Basic
import PaneLayout.Entries

/-!
# Entries that were put

A key that was given a value is found with that value, and other keys with the
values they had.  What holds of all values that are put holds of all entries
that come of it.
-/

namespace PaneLayout.Entries

variable {α : Type}

theorem get?_put_self (key : String) (value : α) (entries : Entries α) :
    (entries.put key value).get? key = some value := by
  induction entries with
  | nil => simp [put, get?]
  | cons entry rest induction =>
      obtain ⟨other, old⟩ := entry
      by_cases same : other = key
      · simp [put, get?, same]
      · simp [put, get?, same, induction]

theorem get?_put_of_ne {key other : String} (different : key ≠ other)
    (value : α) (entries : Entries α) :
    (entries.put key value).get? other = entries.get? other := by
  induction entries with
  | nil => simp [put, get?, different]
  | cons entry rest induction =>
      obtain ⟨first, old⟩ := entry
      by_cases same : first = key
      · simp [put, get?, same, different]
      · simp [put, get?, same, induction]

theorem find?_put_of_false {key : String} {test : String × α → Bool}
    (fails : ∀ value, test (key, value) = false) (value : α)
    (entries : Entries α) :
    (entries.put key value).find? test = entries.find? test := by
  induction entries with
  | nil => simp [put, fails]
  | cons entry rest induction =>
      obtain ⟨first, old⟩ := entry
      by_cases same : first = key
      · subst same
        simp [put, fails]
      · simp only [put, same, if_false, List.find?_cons, induction]

theorem get?_put (key other : String) (value : α) (entries : Entries α) :
    (entries.put key value).get? other =
      if key = other then some value else entries.get? other := by
  by_cases same : key = other
  · rw [if_pos same, ← same, get?_put_self]
  · rw [if_neg same, get?_put_of_ne same]

theorem mem_of_get? {key : String} {value : α} {entries : Entries α}
    (found : entries.get? key = some value) : (key, value) ∈ entries := by
  induction entries with
  | nil => cases found
  | cons entry rest induction =>
      obtain ⟨first, old⟩ := entry
      by_cases same : first = key
      · simp_all [get?]
      · refine List.mem_cons_of_mem _ (induction ?_)
        simpa [get?, same] using found

theorem get?_of_mem {key : String} {value : α} {entries : Entries α}
    (unique : entries.keys.Nodup) (member : (key, value) ∈ entries) :
    entries.get? key = some value := by
  induction entries with
  | nil => cases member
  | cons entry rest induction =>
      obtain ⟨first, old⟩ := entry
      rw [keys, List.map_cons, List.nodup_cons] at unique
      rcases List.mem_cons.mp member with same | later
      · cases same
        simp [get?]
      · have different : first ≠ key := by
          rintro rfl
          exact unique.1 (List.mem_map.mpr ⟨(first, value), later, rfl⟩)
        simp [get?, different, induction unique.2 later]

theorem mem_keys_iff {key : String} {entries : Entries α} :
    key ∈ entries.keys ↔ ∃ value, entries.get? key = some value := by
  induction entries with
  | nil => simp [keys, get?]
  | cons entry rest induction =>
      obtain ⟨first, old⟩ := entry
      by_cases same : first = key
      · simp [keys, get?, same]
      · have other : key ≠ first := Ne.symm same
        simpa [keys, get?, same, other] using induction

theorem mem_keys_put {key other : String} {value : α} {entries : Entries α} :
    other ∈ (entries.put key value).keys ↔
      other = key ∨ other ∈ entries.keys := by
  induction entries with
  | nil => simp [put, keys]
  | cons entry rest induction =>
      obtain ⟨first, old⟩ := entry
      simp only [keys] at induction
      by_cases same : first = key
      · simp [put, keys, same]
      · simp [put, keys, same, induction, or_left_comm]

theorem mem_keys_putAll {key : String} {known additions : Entries α} :
    key ∈ (known.putAll additions).keys ↔
      key ∈ known.keys ∨ key ∈ additions.keys := by
  induction additions generalizing known with
  | nil => simp [putAll, keys]
  | cons first rest induction =>
      have longer : key ∈ keys (first :: rest) ↔
          key = first.1 ∨ key ∈ keys rest := List.mem_cons
      rw [longer, putAll, List.foldl_cons]
      exact induction.trans
        ((or_congr_left mem_keys_put).trans (by rw [or_left_comm, or_assoc]))

theorem mem_keys_ofList {key : String} {additions : Entries α} :
    key ∈ (ofList additions).keys ↔ key ∈ additions.keys := by
  rw [ofList, mem_keys_putAll]
  simp [keys]

theorem put_of_not_mem {key : String} {value : α} {entries : Entries α}
    (isNew : key ∉ entries.keys) :
    entries.put key value = entries ++ [(key, value)] := by
  induction entries with
  | nil => rfl
  | cons entry rest induction =>
      obtain ⟨other, old⟩ := entry
      rw [keys, List.map_cons, List.mem_cons, not_or] at isNew
      rw [put, if_neg (Ne.symm isNew.1), induction isNew.2, List.cons_append]

theorem putAll_of_nodup {known additions : Entries α}
    (unique : (keys (known ++ additions)).Nodup) :
    known.putAll additions = known ++ additions := by
  induction additions generalizing known with
  | nil => exact (List.append_nil known).symm
  | cons first rest induction =>
      have isNew : first.1 ∉ known.keys := by
        rw [keys, List.map_append, List.map_cons] at unique
        exact fun member => (List.nodup_append.mp unique).2.2 _ member _
          List.mem_cons_self rfl
      change (known.put first.1 first.2).putAll rest = _
      rw [List.append_cons] at unique ⊢
      rw [put_of_not_mem isNew]
      exact induction unique

/-- Entries with different keys are put as they are. -/
theorem ofList_of_nodup {additions : Entries α}
    (unique : additions.keys.Nodup) : ofList additions = additions :=
  putAll_of_nodup unique

theorem keys_nodup_put {key : String} {value : α} {entries : Entries α}
    (unique : entries.keys.Nodup) : (entries.put key value).keys.Nodup := by
  induction entries with
  | nil => simp [put, keys]
  | cons entry rest induction =>
      obtain ⟨first, old⟩ := entry
      rw [keys, List.map_cons, List.nodup_cons] at unique
      by_cases same : first = key
      · rw [put, if_pos same, keys, List.map_cons, List.nodup_cons]
        exact unique
      · rw [put, if_neg same, keys, List.map_cons, List.nodup_cons]
        refine ⟨fun member => ?_, induction unique.2⟩
        exact (mem_keys_put.mp member).elim same unique.1

theorem keys_nodup_putAll {known additions : Entries α}
    (unique : known.keys.Nodup) : (known.putAll additions).keys.Nodup := by
  induction additions generalizing known with
  | nil => exact unique
  | cons first rest induction => exact induction (keys_nodup_put unique)

theorem keys_nodup_ofList (additions : Entries α) :
    (ofList additions).keys.Nodup :=
  keys_nodup_putAll List.nodup_nil

theorem mem_put {key : String} {value : α} {entries : Entries α}
    {entry : String × α} (member : entry ∈ entries.put key value) :
    entry = (key, value) ∨ entry ∈ entries := by
  induction entries with
  | nil => exact .inl (List.mem_singleton.mp member)
  | cons first rest induction =>
      obtain ⟨other, old⟩ := first
      by_cases same : other = key
      · rw [put, if_pos same, same, List.mem_cons] at member
        exact member.imp_right (List.mem_cons_of_mem _)
      · rw [put, if_neg same, List.mem_cons] at member
        rcases member with rfl | member
        · exact .inr List.mem_cons_self
        · exact (induction member).imp_right (List.mem_cons_of_mem _)

theorem mem_putAll {known additions : Entries α} {entry : String × α}
    (member : entry ∈ known.putAll additions) :
    entry ∈ known ∨ entry ∈ additions := by
  induction additions generalizing known with
  | nil => exact .inl member
  | cons first rest induction =>
      rcases induction member with isKnown | later
      · rcases mem_put isKnown with rfl | old
        · exact .inr List.mem_cons_self
        · exact .inl old
      · exact .inr (List.mem_cons_of_mem _ later)

theorem mem_ofList {additions : Entries α} {entry : String × α}
    (member : entry ∈ ofList additions) : entry ∈ additions :=
  (mem_putAll member).resolve_left List.not_mem_nil

/-- A value is found under its key if all values put under that key are it. -/
theorem get?_ofList {key : String} {value : α} {additions : Entries α}
    (member : (key, value) ∈ additions)
    (unique : ∀ other, (key, other) ∈ additions → other = value) :
    (ofList additions).get? key = some value := by
  obtain ⟨other, found⟩ := mem_keys_iff.mp
    (mem_keys_ofList.mpr (List.mem_map.mpr ⟨_, member, rfl⟩))
  rw [found, unique other (mem_ofList (mem_of_get? found))]

theorem get?_putAll_cases {key : String} {value : α}
    {known additions : Entries α}
    (found : (known.putAll additions).get? key = some value) :
    (known.get? key = some value ∧ ∀ entry ∈ additions, entry.1 ≠ key) ∨
      ∃ earlier later, additions = earlier ++ (key, value) :: later ∧
        ∀ entry ∈ later, entry.1 ≠ key := by
  induction additions generalizing known with
  | nil => exact .inl ⟨found, List.forall_mem_nil _⟩
  | cons first rest induction =>
      rcases induction found with
        ⟨before, noneLater⟩ | ⟨earlier, later, rfl, isLast⟩
      · rw [get?_put] at before
        split at before
        · next same =>
          cases before
          exact .inr ⟨[], rest, by rw [← same]; rfl, noneLater⟩
        · next different =>
          exact .inl ⟨before, List.forall_mem_cons.mpr ⟨different, noneLater⟩⟩
      · exact .inr ⟨first :: earlier, later, rfl, isLast⟩

/-- Of several entries for a key the last one counts. -/
theorem exists_last_of_ofList {key : String} {value : α}
    {additions : Entries α}
    (found : (ofList additions).get? key = some value) :
    ∃ earlier later, additions = earlier ++ (key, value) :: later ∧
      ∀ entry ∈ later, entry.1 ≠ key :=
  (get?_putAll_cases found).resolve_left fun before => nomatch before.1

theorem head?_put {first : String} {known : α} {entries : Entries α}
    (isFirst : entries.head? = some (first, known)) (key : String)
    (value : α) :
    (entries.put key value).head? =
      some (first, if first = key then value else known) := by
  obtain ⟨rest, rfl⟩ := List.head?_eq_some_iff.mp isFirst
  by_cases same : first = key <;> simp [put, same]

theorem forall_put {property : α → Prop} {key : String} {value : α}
    {entries : Entries α} (new : property value)
    (old : ∀ entry ∈ entries, property entry.2) :
    ∀ entry ∈ entries.put key value, property entry.2 := by
  induction entries with
  | nil => simpa [put] using new
  | cons first rest induction =>
      obtain ⟨other, known⟩ := first
      simp only [List.forall_mem_cons] at old
      by_cases same : other = key
      · simpa [put, same] using ⟨new, fun key value => old.2 (key, value)⟩
      · simpa [put, same] using
          ⟨old.1, fun key value => induction old.2 (key, value)⟩

theorem forall_putAll {property : α → Prop} {known additions : Entries α}
    (old : ∀ entry ∈ known, property entry.2)
    (new : ∀ entry ∈ additions, property entry.2) :
    ∀ entry ∈ known.putAll additions, property entry.2 := by
  induction additions generalizing known with
  | nil => exact old
  | cons first rest induction =>
      simp only [List.forall_mem_cons] at new
      exact induction (forall_put new.1 old) new.2

theorem forall_ofList {property : α → Prop} {additions : Entries α}
    (new : ∀ entry ∈ additions, property entry.2) :
    ∀ entry ∈ ofList additions, property entry.2 :=
  forall_putAll (by simp) new

/-! ### Sorting -/

theorem insertByKey_perm (entry : String × α) (entries : Entries α) :
    (insertByKey entry entries).Perm (entry :: entries) := by
  induction entries with
  | nil => exact .refl _
  | cons other rest induction =>
      unfold insertByKey
      split
      · exact .refl _
      · exact (induction.cons other).trans (.swap entry other rest)

theorem pairwise_insertByKey (entry : String × α) {entries : Entries α}
    (inOrder : entries.Pairwise fun left right => left.1 ≤ right.1) :
    (insertByKey entry entries).Pairwise
      fun left right => left.1 ≤ right.1 := by
  induction inOrder with
  | nil => exact List.pairwise_singleton _ _
  | @cons other rest least inOrder induction =>
      unfold insertByKey
      split
      · next below =>
        exact .cons (List.forall_mem_cons.mpr ⟨below, fun later member =>
          le_trans below (least later member)⟩) (.cons least inOrder)
      · next above =>
        refine .cons (fun later member => ?_) induction
        rcases List.mem_cons.mp
          ((insertByKey_perm entry rest).mem_iff.mp member) with rfl | member
        · exact le_of_not_ge above
        · exact least later member

theorem sortByKey_perm (entries : Entries α) :
    (sortByKey entries).Perm entries := by
  induction entries with
  | nil => exact .refl _
  | cons entry rest induction =>
      exact (insertByKey_perm entry _).trans (induction.cons entry)

theorem pairwise_sortByKey (entries : Entries α) :
    (sortByKey entries).Pairwise fun left right => left.1 ≤ right.1 := by
  induction entries with
  | nil => exact .nil
  | cons entry _ induction => exact pairwise_insertByKey entry induction

end PaneLayout.Entries
