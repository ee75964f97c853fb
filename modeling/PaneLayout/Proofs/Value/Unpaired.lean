import PaneLayout.Proofs.Value.Alike
import PaneLayout.Proofs.Value.Everywhere

/-!
# Values that are alike unless surrogates make pairs

Within ASCII two surrogates can be taken for another character.  Then the order
of texts does not tell the order of values, and nothing is said about values
except that surrogates make pairs in both of them.
-/

namespace PaneLayout.Value

/-- Surrogates make a pair in both values or in neither of them, and if they do
not, the values are alike. -/
structure UnpairedAlike (value other : Value) : Prop where
  unpaired : value.Everywhere HasUnpairedText ↔ other.Everywhere HasUnpairedText
  alike : value.Everywhere HasUnpairedText → value.Alike other

theorem unpairedAlike_refl (value : Value) : value.UnpairedAlike value :=
  ⟨.rfl, fun _ => .refl value⟩

/-- Related items all have a property if the other ones have. -/
theorem forall_mem_iff_of_forall₂ {α β : Type} {related : α → β → Prop}
    {holds : α → Prop} {otherHolds : β → Prop} {items : List α}
    {others : List β} (areRelated : List.Forall₂ related items others)
    (same : ∀ item other, related item other →
      (holds item ↔ otherHolds other)) :
    (∀ item ∈ items, holds item) ↔ ∀ other ∈ others, otherHolds other := by
  induction areRelated with
  | nil => exact iff_of_true (List.forall_mem_nil _) (List.forall_mem_nil _)
  | cons isRelated _ induction =>
      rw [List.forall_mem_cons, List.forall_mem_cons, same _ _ isRelated,
        induction]

/-- Items that have a property are related as that property tells. -/
theorem forall₂_of_holds {α β : Type} {related : α → β → Prop}
    {result : α → β → Prop} {holds : α → Prop} {items : List α}
    {others : List β} (areRelated : List.Forall₂ related items others)
    (allHold : ∀ item ∈ items, holds item)
    (implies : ∀ item other, holds item → related item other →
      result item other) : List.Forall₂ result items others :=
  ((List.forall₂_and_left _ _).mpr ⟨allHold, areRelated⟩).imp
    fun item other both => implies item other both.1 both.2

theorem everywhere_list_iff {items : List Value} :
    (Value.list items).Everywhere HasUnpairedText ↔
      ∀ item ∈ items, item.Everywhere HasUnpairedText :=
  (and_iff_right trivial).trans everywhereList_iff

theorem unpairedAlike_list {items others : List Value}
    (alike : List.Forall₂ UnpairedAlike items others) :
    UnpairedAlike (.list items) (.list others) where
  unpaired := by
    rw [everywhere_list_iff, everywhere_list_iff]
    exact forall_mem_iff_of_forall₂ alike fun _ _ alike => alike.unpaired
  alike unpaired := .list <| alikeList_iff.mpr <|
    forall₂_of_holds alike (everywhere_list_iff.mp unpaired)
      fun _ _ unpaired alike => alike.alike unpaired

section Entries

variable {α β : Type} {content : α → Value} {otherContent : β → Value}

theorem everywhere_textEntries_iff {entries : Entries α} :
    (Value.mapping (textEntries content entries)).Everywhere HasUnpairedText ↔
      ∀ entry ∈ entries, IsUnpaired entry.1.toList ∧
        (content entry.2).Everywhere HasUnpairedText := by
  refine (and_iff_right trivial).trans (everywhereEntries_iff.trans ?_)
  exact List.forall_mem_map

/-- Entries under texts can be paired in any order. -/
theorem unpairedAlike_textEntries {entries arranged : Entries α}
    {others otherArranged : Entries β} (perm : entries.Perm arranged)
    (otherPerm : others.Perm otherArranged)
    (pairs : List.Forall₂ (Entries.Pair fun value other =>
      UnpairedAlike (content value) (otherContent other))
      arranged otherArranged) :
    UnpairedAlike (.mapping (textEntries content entries))
      (.mapping (textEntries otherContent others)) where
  unpaired := by
    rw [everywhere_textEntries_iff, everywhere_textEntries_iff]
    simp only [perm.mem_iff, otherPerm.mem_iff]
    exact forall_mem_iff_of_forall₂ pairs fun _ _ ⟨same, alike⟩ => by
      rw [same, alike.unpaired]
  alike unpaired := by
    have inside := everywhere_textEntries_iff.mp unpaired
    simp only [perm.mem_iff] at inside
    exact alike_textEntries_iff.mpr ⟨_, _, perm, otherPerm,
      forall₂_of_holds pairs inside fun _ _ unpaired pair =>
        ⟨pair.1, pair.2.alike unpaired.2⟩⟩

end Entries

/-- Records whose fields match. -/
theorem unpairedAlike_of_matched {fields others : Entries Value}
    (matched : fields.Matched UnpairedAlike others)
    (unique : fields.keys.Nodup) (otherUnique : others.keys.Nodup) :
    UnpairedAlike (.record fields) (.record others) := by
  obtain ⟨arranged, perm, pairs⟩ := matched.exists_pairs unique otherUnique
  change UnpairedAlike (.mapping (textEntries id fields))
    (.mapping (textEntries id others))
  exact unpairedAlike_textEntries perm (.refl _) pairs

end PaneLayout.Value
