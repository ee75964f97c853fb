import PaneLayout.PaneMap
import PaneLayout.Proofs.Entries

/-!
# What pane maps know

A pane map finds a pane for an id if a pane is recorded at the id, above it, or
below it.  What it finds was recorded before, so that resolving ids never brings
in a pane from elsewhere.
-/

namespace PaneLayout.PaneMap

/-! ### The order of ids -/

/-- The first id is the second one or belongs to a node above it. -/
def AtOrAbove (id other : String) : Prop :=
  id = other ∨ isAncestor id other = true

/-- One of the ids is at or above the other. -/
def Related (id other : String) : Prop :=
  AtOrAbove id other ∨ AtOrAbove other id

/-- An id is at or above another one if it is a prefix when both end with a
dot. -/
theorem atOrAbove_iff {id other : String} :
    AtOrAbove id other ↔ id.toList ++ ['.'] <+: other.toList ++ ['.'] := by
  rw [List.prefix_concat_iff, AtOrAbove, isAncestor, List.isPrefixOf_iff_prefix]
  refine or_congr ⟨fun same => by rw [same], fun same => ?_⟩ Iff.rfl
  exact String.toList_injective (List.append_cancel_right same)

theorem AtOrAbove.refl (id : String) : AtOrAbove id id := .inl rfl

theorem AtOrAbove.trans {id other last : String} (first : AtOrAbove id other)
    (second : AtOrAbove other last) : AtOrAbove id last :=
  atOrAbove_iff.mpr ((atOrAbove_iff.mp first).trans (atOrAbove_iff.mp second))

/-- Of two ids above the same id one is above the other. -/
theorem AtOrAbove.related {id other last : String} (first : AtOrAbove id last)
    (second : AtOrAbove other last) : Related id other := by
  rw [Related, atOrAbove_iff, atOrAbove_iff]
  exact List.prefix_or_prefix_of_prefix (atOrAbove_iff.mp first)
    (atOrAbove_iff.mp second)

theorem Related.symm {id other : String} (related : Related id other) :
    Related other id := Or.symm related

/-- What is above an id is related to all that the id is related to. -/
theorem Related.of_atOrAbove {id other last : String}
    (above : AtOrAbove id other) (related : Related other last) :
    Related id last := by
  rcases related with down | up
  · exact .inl (above.trans down)
  · exact above.related up

/-- An id that joins two unrelated ones is above the second. -/
theorem Related.isAncestor {id other last : String}
    (first : Related id other) (second : Related other last)
    (apart : ¬ Related id last) : isAncestor other last = true := by
  rcases first with above | below
  · exact absurd (second.of_atOrAbove above) apart
  · rcases second with (rfl | above) | below'
    · exact absurd (.inr below) apart
    · exact above
    · exact absurd (.inr (below'.trans below)) apart

theorem mem_partsBeforeDots {part text : List Char} :
    part ∈ partsBeforeDots text ↔ part ++ ['.'] <+: text := by
  induction text generalizing part with
  | nil => simp [partsBeforeDots]
  | cons c rest induction =>
      have longer : part ∈ (partsBeforeDots rest).map (c :: ·) ↔
          ∃ shorter, shorter ++ ['.'] <+: rest ∧ c :: shorter = part := by
        simp only [List.mem_map, induction]
      cases part with
      | nil => by_cases dot : c = '.' <;> simp [partsBeforeDots, dot, eq_comm]
      | cons d part =>
          have same : d :: part ∈ partsBeforeDots (c :: rest) ↔
              d :: part ∈ (partsBeforeDots rest).map (c :: ·) := by
            by_cases dot : c = '.' <;> simp [partsBeforeDots, dot]
          rw [same, longer, List.cons_append, List.cons_prefix_cons]
          constructor
          · rintro ⟨_, isPrefix, ⟨⟩⟩
            exact ⟨rfl, isPrefix⟩
          · rintro ⟨rfl, isPrefix⟩
            exact ⟨part, isPrefix, rfl⟩

theorem mem_ancestors {id other : String} :
    id ∈ ancestors other ↔ isAncestor id other = true := by
  rw [isAncestor, List.isPrefixOf_iff_prefix, ← mem_partsBeforeDots, ancestors,
    List.mem_map]
  constructor
  · rintro ⟨part, member, rfl⟩
    simpa using member
  · intro member
    exact ⟨id.toList, by simpa using member, String.ofList_toList⟩

/-! ### What is found was recorded -/

section Found

variable {panes : PaneMap} {id other realId : String}

theorem get?_eq_some_iff :
    panes.get? id = some realId ↔
      panes.entries.get? id = some realId ∧ realId ≠ "" := by
  simp [get?, Option.filter_eq_some_iff]

theorem mem_of_get? (found : panes.get? id = some realId) :
    (id, realId) ∈ panes.entries :=
  Entries.mem_of_get? (get?_eq_some_iff.mp found).1

/-- What is found was recorded under an id related to the one asked for. -/
theorem exists_of_lookup (found : panes.lookup id = some realId) :
    ∃ known, Related known id ∧ (known, realId) ∈ panes.entries ∧
      realId ≠ "" := by
  simp only [lookup, Option.orElse_eq_orElse, Option.orElse_eq_or,
    Option.or_eq_some_iff] at found
  rcases found with same | ⟨_, above | ⟨_, below⟩⟩
  · exact ⟨id, .inl (.refl id), mem_of_get? same,
      (get?_eq_some_iff.mp same).2⟩
  · obtain ⟨known, member, same⟩ := List.exists_of_findSome?_eq_some above
    exact ⟨known, .inl (.inr (mem_ancestors.mp member)), mem_of_get? same,
      (get?_eq_some_iff.mp same).2⟩
  · obtain ⟨⟨known, pane⟩, first, rfl⟩ := Option.map_eq_some_iff.mp below
    have fits := List.find?_some first
    simp only [Bool.and_eq_true, decide_eq_true_eq] at fits
    exact ⟨known, .inr (.inr fits.1), List.mem_of_find?_eq_some first, fits.2⟩

theorem has_iff : panes.has id = true ↔ ∃ realId, panes.get? id = some realId :=
  Option.isSome_iff_exists

/-- In a map without repeated ids a pane is found for exactly those ids that are
related to one with a pane. -/
theorem lookup_isSome_iff (unique : panes.entries.keys.Nodup) :
    (panes.lookup id).isSome = true ↔
      ∃ known, panes.has known = true ∧ Related known id := by
  constructor
  · intro found
    obtain ⟨realId, found⟩ := Option.isSome_iff_exists.mp found
    obtain ⟨known, related, member, nonblank⟩ := exists_of_lookup found
    refine ⟨known, has_iff.mpr ⟨realId, ?_⟩, related⟩
    exact get?_eq_some_iff.mpr ⟨Entries.get?_of_mem unique member, nonblank⟩
  · rintro ⟨known, recorded, related⟩
    obtain ⟨realId, recorded⟩ := has_iff.mp recorded
    simp only [lookup, Option.orElse_eq_orElse, Option.orElse_eq_or,
      Option.isSome_or, Bool.or_eq_true]
    rcases related with (rfl | above) | (rfl | below)
    · exact .inl (by rw [recorded, Option.isSome_some])
    · refine .inr (.inl ?_)
      rw [ofAncestor?, List.findSome?_isSome_iff]
      exact ⟨known, mem_ancestors.mpr above,
        by rw [recorded, Option.isSome_some]⟩
    · exact .inl (by rw [recorded, Option.isSome_some])
    · refine .inr (.inr ?_)
      rw [ofDescendant?, Option.isSome_map, List.find?_isSome]
      have nonblank := (get?_eq_some_iff.mp recorded).2
      exact ⟨(known, realId), mem_of_get? recorded, by simp [below, nonblank]⟩

theorem resolve_of_found (found : panes.lookup id = some realId) :
    panes.resolve id = (some realId, panes.register id realId) := by
  rw [resolve, found]

theorem resolve_of_unknown (unknown : panes.lookup id = none) :
    panes.resolve id = (none, panes) := by
  rw [resolve, unknown]

end Found

/-! ### Recording -/

/-- All panes that are recorded have a property. -/
def Stores (property : String → Prop) (panes : PaneMap) : Prop :=
  ∀ entry ∈ panes.entries, property entry.2

section Stores

variable {property : String → Prop} {panes : PaneMap} {id realId : String}

theorem Stores.mono {other : String → Prop} (stores : panes.Stores property)
    (weaker : ∀ pane, property pane → other pane) : panes.Stores other :=
  fun entry member => weaker _ (stores entry member)

theorem stores_empty : empty.Stores property := by
  simp [Stores, empty]

theorem Stores.register (stores : panes.Stores property)
    (new : property realId) : (panes.register id realId).Stores property :=
  Entries.forall_put new stores

theorem Stores.of_get? (stores : panes.Stores property)
    (found : panes.get? id = some realId) : property realId :=
  stores _ (mem_of_get? found)

theorem Stores.of_lookup (stores : panes.Stores property)
    (found : panes.lookup id = some realId) : property realId := by
  obtain ⟨known, _, member, _⟩ := exists_of_lookup found
  exact stores _ member

/-- Whether or not an id is resolved, only known panes are recorded. -/
theorem Stores.resolve (stores : panes.Stores property) (id : String) :
    (panes.resolve id).2.Stores property := by
  cases found : panes.lookup id with
  | none => rwa [resolve_of_unknown found]
  | some realId =>
      rw [resolve_of_found found]
      exact stores.register (stores.of_lookup found)

end Stores

section Has

variable {panes : PaneMap} {id other realId : String}

theorem has_register (nonblank : realId ≠ "") :
    (panes.register id realId).has other = true ↔
      id = other ∨ panes.has other = true := by
  simp only [has, get?, register, Entries.get?_put]
  by_cases same : id = other <;> simp [same, nonblank]

theorem keys_nodup_register (unique : panes.entries.keys.Nodup)
    (id realId : String) :
    (panes.register id realId).entries.keys.Nodup :=
  Entries.keys_nodup_put unique

theorem keys_nodup_resolve (unique : panes.entries.keys.Nodup) (id : String) :
    (panes.resolve id).2.entries.keys.Nodup := by
  cases found : panes.lookup id with
  | none => rwa [resolve_of_unknown found]
  | some realId =>
      rw [resolve_of_found found]
      exact keys_nodup_register unique id realId

/-- Resolving an id that has a pane records it, and nothing else. -/
theorem has_resolve (found : (panes.lookup id).isSome = true) :
    (panes.resolve id).2.has other = true ↔
      id = other ∨ panes.has other = true := by
  obtain ⟨realId, found⟩ := Option.isSome_iff_exists.mp found
  obtain ⟨_, _, _, nonblank⟩ := exists_of_lookup found
  rw [resolve_of_found found]
  exact has_register nonblank

/-- Resolving an id makes known only what is below it. -/
theorem isAncestor_of_resolve (unique : panes.entries.keys.Nodup)
    (unknown : panes.lookup other = none)
    (found : ((panes.resolve id).2.lookup other).isSome = true) :
    isAncestor id other = true := by
  have apart : ∀ known, panes.has known = true → ¬ Related known other := by
    intro known recorded related
    have isSome := (lookup_isSome_iff unique).mpr ⟨known, recorded, related⟩
    rw [unknown] at isSome
    cases isSome
  cases isFound : panes.lookup id with
  | none =>
      rw [resolve_of_unknown isFound, unknown] at found
      cases found
  | some realId =>
      have isSome : (panes.lookup id).isSome = true := by rw [isFound]; rfl
      rw [lookup_isSome_iff (keys_nodup_resolve unique id)] at found
      obtain ⟨known, recorded, related⟩ := found
      rcases (has_resolve isSome).mp recorded with rfl | recorded
      · obtain ⟨joined, wasRecorded, joins⟩ :=
          (lookup_isSome_iff unique).mp isSome
        exact joins.isAncestor related (apart _ wasRecorded)
      · exact absurd related (apart _ recorded)

end Has

end PaneLayout.PaneMap
