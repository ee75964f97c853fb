import PaneLayout.Preset
import PaneLayout.Proofs.Entries.Matched

/-!
# Values up to the order of mappings

Two values are alike if they differ at most in the order of the entries of their
mappings, at whatever depth.  A whole number and a double are not alike, even if
they agree as keys.
-/

namespace PaneLayout.Value

mutual

/-- The values are equal up to the order of mappings. -/
inductive Alike : Value → Value → Prop where
  | refl (value : Value) : Alike value value
  | list {items others : List Value} :
      AlikeList items others → Alike (.list items) (.list others)
  | mapping {entries reordered others reorderedOthers :
        List (Value × Value)} :
      entries.Perm reordered → others.Perm reorderedOthers →
      AlikeEntries reordered reorderedOthers →
      Alike (.mapping entries) (.mapping others)

inductive AlikeList : List Value → List Value → Prop where
  | nil : AlikeList [] []
  | cons {item other : Value} {items others : List Value} :
      Alike item other → AlikeList items others →
      AlikeList (item :: items) (other :: others)

/-- The entries have the same keys one by one, and alike values under them. -/
inductive AlikeEntries :
    List (Value × Value) → List (Value × Value) → Prop where
  | nil : AlikeEntries [] []
  | cons {key value other : Value} {entries others : List (Value × Value)} :
      Alike value other → AlikeEntries entries others →
      AlikeEntries ((key, value) :: entries) ((key, other) :: others)

end

theorem alikeList_iff {items others : List Value} :
    AlikeList items others ↔ List.Forall₂ Alike items others := by
  constructor
  · intro alike
    induction items generalizing others with
    | nil =>
        cases alike
        exact .nil
    | cons item items induction =>
        cases alike with
        | cons first rest => exact .cons first (induction rest)
  · intro alike
    induction alike with
    | nil => exact .nil
    | cons first _ induction => exact .cons first induction

theorem alikeEntries_refl (entries : List (Value × Value)) :
    AlikeEntries entries entries := by
  induction entries with
  | nil => exact .nil
  | cons entry entries induction => exact .cons (.refl _) induction

theorem Alike.items {items others : List Value}
    (alike : Alike (.list items) (.list others)) :
    List.Forall₂ Alike items others := by
  cases alike with
  | refl => exact List.forall₂_same.mpr fun _ _ => .refl _
  | list alike => exact alikeList_iff.mp alike

theorem Alike.entries {entries others : List (Value × Value)}
    (alike : Alike (.mapping entries) (.mapping others)) :
    ∃ reordered reorderedOthers, entries.Perm reordered ∧
      others.Perm reorderedOthers ∧
      AlikeEntries reordered reorderedOthers := by
  cases alike with
  | refl => exact ⟨_, _, .refl _, .refl _, alikeEntries_refl _⟩
  | mapping perm otherPerm alike => exact ⟨_, _, perm, otherPerm, alike⟩

theorem AlikeEntries.of_mem {entries others : List (Value × Value)}
    (alike : AlikeEntries entries others) {key value : Value}
    (member : (key, value) ∈ entries) :
    ∃ other, (key, other) ∈ others ∧ Alike value other := by
  induction entries generalizing others with
  | nil => cases member
  | cons entry entries induction =>
      cases alike with
      | @cons _ _ other _ others first rest =>
          rcases List.mem_cons.mp member with same | later
          · cases same
            exact ⟨other, List.mem_cons_self, first⟩
          · obtain ⟨found, isMember, alike⟩ := induction rest later
            exact ⟨found, List.mem_cons_of_mem _ isMember, alike⟩

/-- Alike records have alike fields. -/
theorem Alike.field {fields others : Entries Value}
    (alike : Alike (.record fields) (.record others))
    (unique : others.keys.Nodup) {key : String} {value other : Value}
    (member : (key, value) ∈ fields) (otherMember : (key, other) ∈ others) :
    Alike value other := by
  obtain ⟨reordered, reorderedOthers, perm, otherPerm, alike⟩ := alike.entries
  have isEntry : (Value.text key, value) ∈ reordered :=
    perm.mem_iff.mp (List.mem_map.mpr ⟨(key, value), member, rfl⟩)
  obtain ⟨found, isFound, alike⟩ := alike.of_mem isEntry
  obtain ⟨⟨name, same⟩, isOther, made⟩ :=
    List.mem_map.mp (otherPerm.mem_iff.mpr isFound)
  cases made
  have same := (Entries.get?_of_mem unique isOther).symm.trans
    (Entries.get?_of_mem unique otherMember)
  rwa [← Option.some.inj same]

/-! ### Entries under texts -/

section Entries

variable {α β : Type} {content : α → Value} {otherContent : β → Value}
  {entries : Entries α} {others : Entries β}

/-- Contents under text keys, as entries of a mapping. -/
def textEntries (content : α → Value) (entries : Entries α) :
    List (Value × Value) :=
  entries.map fun entry => (.text entry.1, content entry.2)

/-- Entries with texts as keys. -/
theorem exists_textEntries {entries : List (Value × Value)}
    (texts : ∀ entry ∈ entries, ∃ key, entry.1 = .text key) :
    ∃ fields : Entries Value, entries = textEntries id fields := by
  induction entries with
  | nil => exact ⟨[], rfl⟩
  | cons entry entries induction =>
      obtain ⟨⟨key, isKey⟩, textsRest⟩ := List.forall_mem_cons.mp texts
      obtain ⟨fields, made⟩ := induction textsRest
      obtain ⟨_, value⟩ := entry
      cases isKey
      exact ⟨(key, value) :: fields, congrArg _ made⟩

theorem lookup_textEntries (key : String) (entries : Entries α) :
    lookup (textEntries content entries) key =
      (entries.get? key).map content := by
  induction entries with
  | nil => rfl
  | cons entry entries induction =>
      obtain ⟨name, value⟩ := entry
      by_cases same : name = key
      · simp [textEntries, lookup, isText, Entries.get?, same]
      · simpa [textEntries, lookup, isText, Entries.get?, same] using induction

theorem exists_of_textEntries_perm {arranged : List (Value × Value)}
    (perm : (textEntries content entries).Perm arranged) :
    ∃ reordered, entries.Perm reordered ∧
      arranged = textEntries content reordered := by
  have related : List.Forall₂
      (fun entry made => (Value.text entry.1, content entry.2) = made) entries
      (textEntries content entries) := by
    rw [textEntries, List.forall₂_map_right_iff]
    exact List.forall₂_same.mpr fun _ _ => rfl
  obtain ⟨reordered, isReordered, made⟩ :=
    Entries.exists_reordered related perm.symm
  refine ⟨reordered, isReordered, ?_⟩
  rw [← List.forall₂_map_left_iff
    (f := fun entry : String × α => (Value.text entry.1, content entry.2)),
    List.forall₂_eq_eq_eq] at made
  exact made.symm

theorem alikeEntries_textEntries :
    AlikeEntries (textEntries content entries)
        (textEntries otherContent others) ↔
      List.Forall₂ (Entries.Pair fun value other =>
        Alike (content value) (otherContent other)) entries others := by
  constructor
  · intro alike
    induction entries generalizing others with
    | nil =>
        cases others with
        | nil => exact .nil
        | cons => cases alike
    | cons entry entries induction =>
        cases others with
        | nil => cases alike
        | cons other others =>
            obtain ⟨key, value⟩ := entry
            obtain ⟨otherKey, otherValue⟩ := other
            cases alike with
            | cons first rest => exact .cons ⟨rfl, first⟩ (induction rest)
  · intro pairs
    induction pairs with
    | nil => exact .nil
    | @cons entry other _ _ pair _ induction =>
        obtain ⟨key, value⟩ := entry
        obtain ⟨otherKey, otherValue⟩ := other
        obtain ⟨same, alike⟩ := pair
        cases same
        exact .cons alike induction

/-- Mappings with text keys are alike if their entries can be paired. -/
theorem alike_textEntries_iff :
    Alike (.mapping (textEntries content entries))
        (.mapping (textEntries otherContent others)) ↔
      ∃ arranged otherArranged, entries.Perm arranged ∧
        others.Perm otherArranged ∧ List.Forall₂ (Entries.Pair
          fun value other => Alike (content value) (otherContent other))
          arranged otherArranged := by
  constructor
  · intro alike
    obtain ⟨_, _, perm, otherPerm, alike⟩ := alike.entries
    obtain ⟨arranged, isArranged, rfl⟩ := exists_of_textEntries_perm perm
    obtain ⟨otherArranged, isOtherArranged, rfl⟩ :=
      exists_of_textEntries_perm otherPerm
    exact ⟨arranged, otherArranged, isArranged, isOtherArranged,
      alikeEntries_textEntries.mp alike⟩
  · rintro ⟨arranged, otherArranged, perm, otherPerm, pairs⟩
    exact .mapping (perm.map _) (otherPerm.map _)
      (alikeEntries_textEntries.mpr pairs)

end Entries

end PaneLayout.Value
