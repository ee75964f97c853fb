import Mathlib.Data.List.Nodup
import Mathlib.Data.List.Perm.Basic
import PaneLayout.Proofs.Entries

/-!
# Entries that match

Two collections of entries match if they have the same keys, with related values
under them.  Collections with distinct keys that match can be brought into one
order.
-/

namespace PaneLayout.Entries

variable {α β : Type} {related : α → β → Prop}

/-- Two entries have one key and related values. -/
def Pair (related : α → β → Prop) (entry : String × α)
    (other : String × β) : Prop :=
  entry.1 = other.1 ∧ related entry.2 other.2

/-- The same keys are there, with related values under them. -/
def Matched (related : α → β → Prop) (entries : Entries α)
    (others : Entries β) : Prop :=
  ∀ key, Option.Rel related (entries.get? key) (others.get? key)

/-! ### Lookups -/

theorem get?_of_perm {entries arranged : Entries α}
    (unique : entries.keys.Nodup) (perm : entries.Perm arranged)
    (key : String) : entries.get? key = arranged.get? key := by
  have uniqueArranged : arranged.keys.Nodup :=
    (perm.map Prod.fst).nodup_iff.mp unique
  ext value
  constructor
  · exact fun found => get?_of_mem uniqueArranged
      (perm.mem_iff.mp (mem_of_get? found))
  · exact fun found => get?_of_mem unique
      (perm.mem_iff.mpr (mem_of_get? found))

theorem get?_filter (test : String → Bool) (key : String)
    (entries : Entries α) :
    get? key (entries.filter fun entry => test entry.1) =
      if test key then entries.get? key else none := by
  induction entries with
  | nil => simp [get?]
  | cons entry entries induction =>
      obtain ⟨other, value⟩ := entry
      by_cases kept : test other = true <;> by_cases same : other = key
      · simp [get?, kept, ← same]
      · simp [get?, kept, same, induction]
      · subst same
        simpa [kept] using induction
      · simp [get?, kept, same, induction]

theorem get?_eq_none {key : String} {entries : Entries α}
    (isNew : key ∉ entries.keys) : entries.get? key = none := by
  by_contra found
  obtain ⟨value, isValue⟩ := Option.ne_none_iff_exists'.mp found
  exact isNew (mem_keys_iff.mpr ⟨value, isValue⟩)

/-- Entries that are put win over those that were there. -/
theorem get?_putAll {known additions : Entries α}
    (unique : additions.keys.Nodup) (key : String) :
    (known.putAll additions).get? key =
      (additions.get? key).or (known.get? key) := by
  induction additions generalizing known with
  | nil => rfl
  | cons first rest induction =>
      obtain ⟨other, value⟩ := first
      obtain ⟨isNew, uniqueRest⟩ := List.nodup_cons.mp unique
      refine (induction uniqueRest).trans ?_
      rw [get?_put, get?]
      split
      · next same =>
        rw [← same, get?_eq_none isNew]
        rfl
      · rfl

/-! ### Matches -/

theorem matched_of_pairs {entries : Entries α} {others : Entries β}
    (pairs : List.Forall₂ (Pair related) entries others) :
    Matched related entries others := by
  intro key
  induction pairs with
  | nil => exact .none
  | @cons entry other _ _ pair _ induction =>
      obtain ⟨name, value⟩ := entry
      obtain ⟨otherName, otherValue⟩ := other
      obtain ⟨same, holds⟩ := pair
      cases same
      by_cases here : name = key
      · simpa [get?, here] using Option.Rel.some holds
      · simpa [get?, here] using induction

theorem Matched.exists_of_other {entries : Entries α} {others : Entries β}
    (matched : Matched related entries others) {key : String} {other : β}
    (found : others.get? key = some other) :
    ∃ value, entries.get? key = some value ∧ related value other := by
  have pair := matched key
  rw [found] at pair
  generalize entries.get? key = content at pair
  cases pair with
  | some holds => exact ⟨_, rfl, holds⟩

theorem matched_of_perm {entries arranged : Entries α}
    {others otherArranged : Entries β} (unique : entries.keys.Nodup)
    (otherUnique : others.keys.Nodup) (perm : entries.Perm arranged)
    (otherPerm : others.Perm otherArranged)
    (pairs : List.Forall₂ (Pair related) arranged otherArranged) :
    Matched related entries others := by
  intro key
  rw [get?_of_perm unique perm, get?_of_perm otherUnique otherPerm]
  exact matched_of_pairs pairs key

theorem eq_of_pairs {entries others : Entries α}
    (pairs : List.Forall₂ (Pair Eq) entries others) : entries = others := by
  rw [← List.forall₂_eq_eq_eq]
  exact pairs.imp fun _ _ pair => Prod.ext pair.1 pair.2

theorem keys_of_pairs {entries : Entries α} {others : Entries β}
    (pairs : List.Forall₂ (Pair related) entries others) :
    entries.keys = others.keys := by
  induction pairs with
  | nil => rfl
  | cons pair _ induction => exact congrArg₂ List.cons pair.1 induction

theorem exists_of_pairs {entries : Entries α} {others : Entries β}
    (pairs : List.Forall₂ (Pair related) entries others) {entry : String × α}
    (member : entry ∈ entries) :
    ∃ value, (entry.1, value) ∈ others ∧ related entry.2 value := by
  induction pairs with
  | nil => cases member
  | @cons _ other _ _ pair _ induction =>
      rcases List.mem_cons.mp member with rfl | later
      · exact ⟨other.2, pair.1 ▸ List.mem_cons_self, pair.2⟩
      · obtain ⟨value, found, holds⟩ := induction later
        exact ⟨value, List.mem_cons_of_mem _ found, holds⟩

/-- Items in another order belong to related items in another order. -/
theorem exists_reordered {items : List α} {others arranged : List β}
    (areRelated : List.Forall₂ related items others)
    (perm : arranged.Perm others) :
    ∃ reordered, items.Perm reordered ∧
      List.Forall₂ related reordered arranged := by
  obtain ⟨reordered, isRelated, isPerm⟩ :=
    List.perm_comp_forall₂ perm areRelated.flip
  exact ⟨reordered, isPerm.symm, isRelated.flip⟩

section Across

variable {γ δ : Type} {made : α → γ → Prop} {otherMade : β → δ → Prop}
  {result : γ → δ → Prop}

/-- What is made of related items is related as soon as that holds of each. -/
theorem forall₂_across {items : List α} {others : List β} {contents : List γ}
    {otherContents : List δ}
    (across : ∀ item other content otherContent, related item other →
      made item content → otherMade other otherContent →
      result content otherContent)
    (areRelated : List.Forall₂ related items others)
    (areMade : List.Forall₂ made items contents)
    (othersAreMade : List.Forall₂ otherMade others otherContents) :
    List.Forall₂ result contents otherContents := by
  induction areRelated generalizing contents otherContents with
  | nil =>
      cases areMade
      cases othersAreMade
      exact .nil
  | cons isRelated _ induction =>
      cases areMade with
      | cons isMade areMade =>
          cases othersAreMade with
          | cons otherIsMade othersAreMade =>
              exact .cons (across _ _ _ _ isRelated isMade otherIsMade)
                (induction areMade othersAreMade)

theorem pairs_across {entries : Entries α} {others : Entries β}
    {contents : Entries γ} {otherContents : Entries δ}
    (across : ∀ item other content otherContent, related item other →
      made item content → otherMade other otherContent →
      result content otherContent)
    (areRelated : List.Forall₂ (Pair related) entries others)
    (areMade : List.Forall₂ (Pair made) entries contents)
    (othersAreMade : List.Forall₂ (Pair otherMade) others otherContents) :
    List.Forall₂ (Pair result) contents otherContents := by
  refine forall₂_across ?_ areRelated areMade othersAreMade
  rintro entry other content otherContent ⟨same, isRelated⟩ ⟨sameMade, isMade⟩
    ⟨otherSameMade, otherIsMade⟩
  exact ⟨sameMade.symm.trans (same.trans otherSameMade),
    across _ _ _ _ isRelated isMade otherIsMade⟩

/-- The contents can be paired in whatever order the entries are paired. -/
theorem exists_pairs_across {entries arranged : Entries α}
    {others otherArranged : Entries β} {contents : Entries γ}
    {otherContents : Entries δ}
    (across : ∀ item other content otherContent, related item other →
      made item content → otherMade other otherContent →
      result content otherContent)
    (perm : entries.Perm arranged) (otherPerm : others.Perm otherArranged)
    (areRelated : List.Forall₂ (Pair related) arranged otherArranged)
    (areMade : List.Forall₂ (Pair made) entries contents)
    (othersAreMade : List.Forall₂ (Pair otherMade) others otherContents) :
    ∃ reordered otherReordered, contents.Perm reordered ∧
      otherContents.Perm otherReordered ∧
      List.Forall₂ (Pair result) reordered otherReordered := by
  obtain ⟨reordered, isPerm, reorderedMade⟩ :=
    exists_reordered areMade.flip perm.symm
  obtain ⟨otherReordered, otherIsPerm, otherReorderedMade⟩ :=
    exists_reordered othersAreMade.flip otherPerm.symm
  exact ⟨reordered, otherReordered, isPerm, otherIsPerm, pairs_across across
    areRelated reorderedMade.flip otherReorderedMade.flip⟩

end Across

theorem Matched.filter {entries : Entries α} {others : Entries β}
    (matched : Matched related entries others) (test : String → Bool) :
    Matched related (entries.filter fun entry => test entry.1)
      (others.filter fun other => test other.1) := by
  intro key
  rw [get?_filter, get?_filter]
  split
  · exact matched key
  · exact .none

theorem Matched.putAll {known additions : Entries α}
    {otherKnown otherAdditions : Entries β}
    (matched : Matched related known otherKnown)
    (added : Matched related additions otherAdditions)
    (unique : additions.keys.Nodup) (otherUnique : otherAdditions.keys.Nodup) :
    Matched related (known.putAll additions)
      (otherKnown.putAll otherAdditions) := by
  intro key
  rw [get?_putAll unique, get?_putAll otherUnique]
  have first := added key
  generalize additions.get? key = content at first
  generalize otherAdditions.get? key = other at first
  cases first with
  | some holds => exact .some holds
  | none => exact matched key

theorem Matched.isEmpty {entries : Entries α} {others : Entries β}
    (matched : Matched related entries others) :
    entries.isEmpty = others.isEmpty := by
  cases entries with
  | nil =>
      cases others with
      | nil => rfl
      | cons other others =>
          have absent := matched other.1
          simp [get?] at absent
  | cons entry entries =>
      cases others with
      | nil =>
          have absent := matched entry.1
          simp [get?] at absent
      | cons other others => rfl

/-- Entries that match can be brought into one order. -/
theorem Matched.exists_pairs {entries : Entries α} {others : Entries β}
    (matched : Matched related entries others) (unique : entries.keys.Nodup)
    (otherUnique : others.keys.Nodup) :
    ∃ arranged, entries.Perm arranged ∧
      List.Forall₂ (Pair related) arranged others := by
  induction others generalizing entries with
  | nil => exact ⟨[], List.isEmpty_iff.mp matched.isEmpty ▸ .nil, .nil⟩
  | cons other others induction =>
      obtain ⟨name, other⟩ := other
      obtain ⟨otherIsNew, otherUniqueRest⟩ := List.nodup_cons.mp otherUnique
      obtain ⟨value, found, holds⟩ := matched.exists_of_other (if_pos rfl)
      obtain ⟨before, after, rfl⟩ := List.append_of_mem (mem_of_get? found)
      have first : (before ++ (name, value) :: after).Perm
          ((name, value) :: (before ++ after)) := List.perm_middle
      obtain ⟨isNew, uniqueRest⟩ :=
        List.nodup_cons.mp ((first.map Prod.fst).nodup_iff.mp unique)
      have matchedRest : Matched related (before ++ after) others := by
        intro key
        by_cases here : name = key
        · rw [← here, get?_eq_none isNew, get?_eq_none otherIsNew]
          exact .none
        · have there := matched key
          rw [get?_of_perm unique first, get?, get?, if_neg here,
            if_neg here] at there
          exact there
      obtain ⟨arranged, perm, pairs⟩ :=
        induction matchedRest uniqueRest otherUniqueRest
      exact ⟨(name, value) :: arranged, first.trans (perm.cons _),
        .cons ⟨rfl, holds⟩ pairs⟩

end PaneLayout.Entries
