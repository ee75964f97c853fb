import PaneLayout.Proofs.Value.Alike

/-!
# Values in another order

The entries of a mapping and the members of a set have no order of their own,
but a value lists them in some order.  Two values are reordered if they differ
at most in these orders, at whatever depth.  A mapping is only reordered if its
keys are texts.
-/

namespace PaneLayout.Value

/-- The keys are texts, and no two of them are the same. -/
structure HasTextKeys (entries : List (Value × Value)) : Prop where
  texts : ∀ entry ∈ entries, ∃ key, entry.1 = .text key
  unique : (entries.map Prod.fst).Nodup

theorem hasTextKeys_textEntries {fields : Entries Value}
    (unique : fields.keys.Nodup) : HasTextKeys (textEntries id fields) where
  texts := List.forall_mem_map.mpr fun field _ => ⟨field.1, rfl⟩
  unique := by
    have uniqueTexts : (fields.keys.map Value.text).Nodup :=
      unique.map fun _ _ => Value.text.inj
    rw [Entries.keys, List.map_map] at uniqueTexts
    rwa [textEntries, List.map_map]

mutual

/-- The values differ at most in the order of the entries of their mappings and
of the members of their sets. -/
inductive Reordered : Value → Value → Prop where
  | refl (value : Value) : Reordered value value
  | list {items others : List Value} :
      ReorderedList items others → Reordered (.list items) (.list others)
  | tuple {items others : List Value} :
      ReorderedList items others → Reordered (.tuple items) (.tuple others)
  | set {members arranged others : List Value} :
      members.Perm arranged → ReorderedList arranged others →
      Reordered (.set members) (.set others)
  | mapping {entries arranged others : List (Value × Value)} :
      HasTextKeys entries → entries.Perm arranged →
      ReorderedEntries arranged others →
      Reordered (.mapping entries) (.mapping others)

inductive ReorderedList : List Value → List Value → Prop where
  | nil : ReorderedList [] []
  | cons {item other : Value} {items others : List Value} :
      Reordered item other → ReorderedList items others →
      ReorderedList (item :: items) (other :: others)

/-- The entries have the same keys one by one, and reordered values. -/
inductive ReorderedEntries :
    List (Value × Value) → List (Value × Value) → Prop where
  | nil : ReorderedEntries [] []
  | cons {key value other : Value} {entries others : List (Value × Value)} :
      Reordered value other → ReorderedEntries entries others →
      ReorderedEntries ((key, value) :: entries) ((key, other) :: others)

end

/-! ### Matching fields -/

section Fields

variable {related : Value → Value → Prop}
  {entries arranged others : List (Value × Value)}

theorem texts_of_pairs
    (pairs : List.Forall₂ (fun entry other =>
      entry.1 = other.1 ∧ related entry.2 other.2) arranged others)
    (texts : ∀ entry ∈ arranged, ∃ key, entry.1 = .text key) :
    ∀ other ∈ others, ∃ key, other.1 = .text key := by
  induction pairs with
  | nil => exact List.forall_mem_nil _
  | cons pair _ induction =>
      obtain ⟨⟨key, isKey⟩, textsRest⟩ := List.forall_mem_cons.mp texts
      exact List.forall_mem_cons.mpr
        ⟨⟨key, pair.1.symm.trans isKey⟩, induction textsRest⟩

/-- Mappings with text keys in another order have fields that match. -/
theorem exists_matched (keyed : HasTextKeys entries)
    (perm : entries.Perm arranged)
    (pairs : List.Forall₂ (fun entry other =>
      entry.1 = other.1 ∧ related entry.2 other.2) arranged others) :
    ∃ fields otherFields : Entries Value, entries = textEntries id fields ∧
      others = textEntries id otherFields ∧ fields.keys.Nodup ∧
      otherFields.keys.Nodup ∧ fields.Matched related otherFields := by
  obtain ⟨otherFields, rfl⟩ := exists_textEntries (texts_of_pairs pairs
    fun entry member => keyed.texts entry (perm.mem_iff.mpr member))
  obtain ⟨fields, rfl⟩ := exists_textEntries keyed.texts
  obtain ⟨reordered, isPerm, rfl⟩ := exists_of_textEntries_perm perm
  rw [textEntries, textEntries, List.forall₂_map_left_iff,
    List.forall₂_map_right_iff] at pairs
  have fieldPairs : List.Forall₂ (Entries.Pair related) reordered otherFields :=
    pairs.imp fun _ _ pair => ⟨Value.text.inj pair.1, pair.2⟩
  have unique : fields.keys.Nodup := by
    refine List.Nodup.of_map Value.text ?_
    have unique := keyed.unique
    rw [textEntries, List.map_map] at unique
    rwa [Entries.keys, List.map_map]
  have otherUnique : otherFields.keys.Nodup := by
    rw [← Entries.keys_of_pairs fieldPairs]
    exact (isPerm.map Prod.fst).nodup_iff.mp unique
  exact ⟨fields, otherFields, rfl, rfl, unique, otherUnique,
    Entries.matched_of_perm unique otherUnique isPerm (.refl _) fieldPairs⟩

theorem lookup_of_pairs (keyed : HasTextKeys entries)
    (perm : entries.Perm arranged)
    (pairs : List.Forall₂ (fun entry other =>
      entry.1 = other.1 ∧ related entry.2 other.2) arranged others)
    (key : String) :
    Option.Rel related (lookup entries key) (lookup others key) := by
  obtain ⟨fields, otherFields, rfl, rfl, _, _, matched⟩ :=
    exists_matched keyed perm pairs
  rw [lookup_textEntries, lookup_textEntries, Option.map_id, id, id]
  exact matched key

end Fields

theorem ReorderedList.forall₂ {items others : List Value}
    (reordered : ReorderedList items others) :
    List.Forall₂ Reordered items others := by
  induction items generalizing others with
  | nil =>
      cases reordered
      exact .nil
  | cons item items induction =>
      cases reordered with
      | cons first rest => exact .cons first (induction rest)

theorem ReorderedEntries.forall₂ {entries others : List (Value × Value)}
    (reordered : ReorderedEntries entries others) :
    List.Forall₂ (fun entry other =>
      entry.1 = other.1 ∧ Reordered entry.2 other.2) entries others := by
  induction entries generalizing others with
  | nil =>
      cases reordered
      exact .nil
  | cons entry entries induction =>
      cases reordered with
      | cons first rest => exact .cons ⟨rfl, first⟩ (induction rest)

theorem reorderedEntries_of_pairs {fields others : Entries Value}
    (pairs : List.Forall₂ (Entries.Pair Reordered) fields others) :
    ReorderedEntries (textEntries id fields) (textEntries id others) := by
  induction pairs with
  | nil => exact .nil
  | @cons field other _ _ pair _ induction =>
      obtain ⟨key, value⟩ := field
      obtain ⟨otherKey, otherValue⟩ := other
      obtain ⟨same, reordered⟩ := pair
      cases same
      exact .cons reordered induction

/-- Fields that match make mappings that are reordered. -/
theorem reordered_of_matched {fields others : Entries Value}
    (matched : fields.Matched Reordered others) (unique : fields.keys.Nodup)
    (otherUnique : others.keys.Nodup) :
    Reordered (.mapping (textEntries id fields))
      (.mapping (textEntries id others)) := by
  obtain ⟨arranged, perm, pairs⟩ := matched.exists_pairs unique otherUnique
  exact .mapping (hasTextKeys_textEntries unique) (perm.map _)
    (reorderedEntries_of_pairs pairs)

/-- What stands under a text is reordered at most. -/
theorem Reordered.lookup {entries others : List (Value × Value)}
    (reordered : Reordered (.mapping entries) (.mapping others))
    (key : String) :
    Option.Rel Reordered (lookup entries key) (lookup others key) := by
  cases reordered with
  | refl =>
      cases Value.lookup entries key with
      | none => exact .none
      | some value => exact .some (.refl value)
  | mapping keyed perm reordered =>
      exact lookup_of_pairs keyed perm reordered.forall₂ key

end PaneLayout.Value
