import PaneLayout.Proofs.Json.Sorted
import PaneLayout.Proofs.Value.Reordered
import PaneLayout.Proofs.Value.Unpaired

/-!
# Canonical forms of reordered values

The members of a set are listed in the order of their texts.  Members in another
order have the same texts, and a text belongs to one value, up to the order of
mappings.  So values that are reordered have alike canonical forms, unless
surrogates make pairs in them.
-/

namespace PaneLayout

open Value

/-! ### Sorted members -/

namespace Json

theorem exists_keyed_of_sortMembers {members sorted : List Json}
    (ok : sortMembers members = .ok sorted) :
    ∃ keyed : List (String × Json),
      List.Forall₂ (fun member entry =>
        entry.2 = member ∧ member.render .sortKey = .ok entry.1)
        members keyed ∧
      sorted = (Entries.sortByKey keyed).map Prod.snd := by
  obtain ⟨keyed, mapped, made⟩ := exists_of_bind_eq_ok ok
  cases made
  refine ⟨keyed, (forall₂_of_mapM mapped).imp fun _ _ keyed => ?_, rfl⟩
  obtain ⟨_, isText, made⟩ := exists_of_bind_eq_ok keyed
  cases made
  exact ⟨rfl, isText⟩

/-- The members stand in the order of their texts. -/
theorem exists_texts_of_sortMembers {members sorted : List Json}
    (ok : sortMembers members = .ok sorted) :
    ∃ texts arranged,
      List.Forall₂ (fun member text => member.render .sortKey = .ok text)
        members texts ∧ texts.Perm arranged ∧ arranged.Pairwise (· ≤ ·) ∧
      List.Forall₂ (fun member text => member.render .sortKey = .ok text)
        sorted arranged := by
  obtain ⟨keyed, areKeyed, rfl⟩ := exists_keyed_of_sortMembers ok
  have perm := Entries.sortByKey_perm keyed
  have areWritten : ∀ entry ∈ keyed, entry.2.render .sortKey = .ok entry.1 := by
    clear ok perm
    induction areKeyed with
    | nil => exact List.forall_mem_nil _
    | cons isKeyed _ induction =>
        exact List.forall_mem_cons.mpr ⟨isKeyed.1 ▸ isKeyed.2, induction⟩
  refine ⟨keyed.map Prod.fst, _, ?_, (perm.map Prod.fst).symm, ?_, ?_⟩
  · rw [List.forall₂_map_right_iff]
    exact areKeyed.imp fun _ _ isKeyed => isKeyed.2
  · exact List.pairwise_map.mpr (Entries.pairwise_sortByKey keyed)
  · rw [List.forall₂_map_left_iff, List.forall₂_map_right_iff,
      List.forall₂_same]
    exact fun entry member => areWritten entry (perm.mem_iff.mp member)

theorem perm_of_sortMembers {members sorted : List Json}
    (ok : sortMembers members = .ok sorted) : sorted.Perm members := by
  obtain ⟨keyed, areKeyed, rfl⟩ := exists_keyed_of_sortMembers ok
  have same : keyed.map Prod.snd = members := by
    rw [← List.forall₂_eq_eq_eq, List.forall₂_map_left_iff]
    exact areKeyed.flip.imp fun _ _ isKeyed => isKeyed.1
  exact same ▸ (Entries.sortByKey_perm keyed).map Prod.snd

/-- Members with the same texts are listed in the same way. -/
theorem alike_of_sortMembers {members others sorted otherSorted : List Json}
    (ok : sortMembers members = .ok sorted)
    (otherOk : sortMembers others = .ok otherSorted)
    (unpaired : ∀ member ∈ members, member.toValue.Everywhere HasUnpairedText)
    (otherUnpaired : ∀ other ∈ others,
      other.toValue.Everywhere HasUnpairedText)
    (sameTexts : ∀ texts otherTexts,
      List.Forall₂ (fun member text => member.render .sortKey = .ok text)
        members texts →
      List.Forall₂ (fun other text => other.render .sortKey = .ok text)
        others otherTexts → texts.Perm otherTexts) :
    List.Forall₂ (fun member other => member.toValue.Alike other.toValue)
      sorted otherSorted := by
  obtain ⟨texts, arranged, areWritten, perm, inOrder, sortedWritten⟩ :=
    exists_texts_of_sortMembers ok
  obtain ⟨otherTexts, otherArranged, othersAreWritten, otherPerm, otherInOrder,
    otherSortedWritten⟩ := exists_texts_of_sortMembers otherOk
  have same : arranged = otherArranged :=
    List.Perm.eq_of_pairwise (fun _ _ _ _ => le_antisymm) inOrder otherInOrder
      (perm.symm.trans
        ((sameTexts _ _ areWritten othersAreWritten).trans otherPerm))
  rw [← same] at otherSortedWritten
  have sortedUnpaired := (List.forall₂_and_left _ _).mpr
    ⟨fun member isSorted => unpaired member
      ((perm_of_sortMembers ok).mem_iff.mp isSorted), sortedWritten⟩
  have otherSortedUnpaired := (List.forall₂_and_left _ _).mpr
    ⟨fun other isSorted => otherUnpaired other
      ((perm_of_sortMembers otherOk).mem_iff.mp isSorted), otherSortedWritten⟩
  refine Entries.forall₂_across ?_ (List.forall₂_same.mpr fun text _ => rfl)
    sortedUnpaired.flip otherSortedUnpaired.flip
  rintro text _ member other rfl ⟨unpaired, written⟩
    ⟨otherUnpaired, otherWritten⟩
  exact alike_of_render isPlain_sortKey (fun _ => unpaired)
    (fun _ => otherUnpaired) written otherWritten

theorem everywhere_array_iff {items : List Json} :
    (array items).toValue.Everywhere HasUnpairedText ↔
      ∀ item ∈ items, item.toValue.Everywhere HasUnpairedText := by
  rw [toValue, toValueList_eq, everywhere_list_iff, List.forall_mem_map]

theorem unpairedAlike_array {items others : List Json}
    (alike : List.Forall₂ (fun item other =>
      item.toValue.UnpairedAlike other.toValue) items others) :
    (array items).toValue.UnpairedAlike (array others).toValue := by
  refine unpairedAlike_list ?_
  rwa [toValueList_eq, toValueList_eq, List.forall₂_map_left_iff,
    List.forall₂_map_right_iff]

end Json

/-! ### Canonical forms -/

namespace Value

/-- The canonical forms are alike, as far as the values have one and surrogates
make no pairs in it. -/
def CanonicalAlike (value other : Value) : Prop :=
  ∀ (json otherJson : Json), value.canonical = .ok json →
    other.canonical = .ok otherJson →
    json.toValue.UnpairedAlike otherJson.toValue

theorem CanonicalAlike.alike (value other : Value) (json otherJson : Json)
    (alike : CanonicalAlike value other) (ok : value.canonical = .ok json)
    (otherOk : other.canonical = .ok otherJson) :
    json.toValue.UnpairedAlike otherJson.toValue :=
  alike json otherJson ok otherOk

theorem canonicalAlike_refl (value : Value) : CanonicalAlike value value := by
  intro json otherJson ok otherOk
  cases ok.symm.trans otherOk
  exact unpairedAlike_refl _

theorem forall₂_of_canonicalList {items : List Value} {jsons : List Json}
    (ok : canonicalList items = .ok jsons) :
    List.Forall₂ (fun value json => value.canonical = .ok json) items
      jsons := by
  induction items generalizing jsons with
  | nil =>
      cases ok
      exact .nil
  | cons item items induction =>
      obtain ⟨json, converted, ok⟩ := exists_of_bind_eq_ok ok
      obtain ⟨jsons, convertedRest, made⟩ := exists_of_bind_eq_ok ok
      cases made
      exact .cons converted (induction convertedRest)

theorem pairs_of_canonicalEntries {fields : Entries Value}
    {members : Entries Json}
    (ok : canonicalEntries (textEntries id fields) = .ok members) :
    List.Forall₂ (Entries.Pair fun value json => value.canonical = .ok json)
      fields members := by
  induction fields generalizing members with
  | nil =>
      cases ok
      exact .nil
  | cons field fields induction =>
      obtain ⟨_, isName, ok⟩ := exists_of_bind_eq_ok ok
      obtain ⟨json, converted, ok⟩ := exists_of_bind_eq_ok ok
      obtain ⟨others, convertedRest, made⟩ := exists_of_bind_eq_ok ok
      cases isName
      cases made
      exact .cons ⟨rfl, converted⟩ (induction convertedRest)

theorem alike_of_canonicalList {items others : List Value}
    {jsons otherJsons : List Json}
    (alike : List.Forall₂ CanonicalAlike items others)
    (ok : canonicalList items = .ok jsons)
    (otherOk : canonicalList others = .ok otherJsons) :
    (Json.array jsons).toValue.UnpairedAlike
      (Json.array otherJsons).toValue :=
  Json.unpairedAlike_array (Entries.forall₂_across CanonicalAlike.alike alike
    (forall₂_of_canonicalList ok) (forall₂_of_canonicalList otherOk))

/-- Members in another order are listed in the order of the same texts. -/
theorem canonicalAlike_set {members arranged others : List Value}
    (perm : members.Perm arranged)
    (alike : List.Forall₂ CanonicalAlike arranged others) :
    CanonicalAlike (.set members) (.set others) := by
  intro json otherJson ok otherOk
  obtain ⟨jsons, converted, ok⟩ := exists_of_bind_eq_ok ok
  obtain ⟨sorted, inOrder, made⟩ := exists_of_bind_eq_ok ok
  obtain ⟨otherJsons, otherConverted, otherOk⟩ := exists_of_bind_eq_ok otherOk
  obtain ⟨otherSorted, otherInOrder, otherMade⟩ := exists_of_bind_eq_ok otherOk
  cases made
  cases otherMade
  obtain ⟨arrangedJsons, jsonsPerm, arrangedConverted⟩ :=
    Entries.exists_reordered (forall₂_of_canonicalList converted).flip perm.symm
  have related : List.Forall₂ (fun json otherJson : Json =>
      json.toValue.UnpairedAlike otherJson.toValue ∧
      json.toValue.Everywhere HasDistinctKeys ∧
      otherJson.toValue.Everywhere HasDistinctKeys) arrangedJsons otherJsons :=
    Entries.forall₂_across (fun _ _ _ _ alike ok otherOk =>
      ⟨alike _ _ ok otherOk, hasDistinctKeys_canonical ok,
        hasDistinctKeys_canonical otherOk⟩) alike arrangedConverted.flip
      (forall₂_of_canonicalList otherConverted)
  have sameUnpaired :
      (∀ json ∈ jsons, json.toValue.Everywhere HasUnpairedText) ↔
        ∀ json ∈ otherJsons, json.toValue.Everywhere HasUnpairedText := by
    simp only [jsonsPerm.mem_iff]
    exact forall_mem_iff_of_forall₂ related fun _ _ both => both.1.unpaired
  have sortedUnpaired {members sorted : List Json}
      (ok : Json.sortMembers members = .ok sorted) :
      (Json.array sorted).toValue.Everywhere HasUnpairedText ↔
        ∀ json ∈ members, json.toValue.Everywhere HasUnpairedText := by
    rw [Json.everywhere_array_iff]
    simp only [(Json.perm_of_sortMembers ok).mem_iff]
  refine ⟨?_, fun unpaired => Json.alike_array (Json.alike_of_sortMembers
    inOrder otherInOrder ((sortedUnpaired inOrder).mp unpaired)
    (sameUnpaired.mp ((sortedUnpaired inOrder).mp unpaired)) ?_)⟩
  · rw [sortedUnpaired inOrder, sortedUnpaired otherInOrder, sameUnpaired]
  · intro texts otherTexts areWritten othersAreWritten
    obtain ⟨arrangedTexts, textsPerm, arrangedWritten⟩ :=
      Entries.exists_reordered areWritten.flip jsonsPerm.symm
    have areUnpaired := (sortedUnpaired inOrder).mp unpaired
    simp only [jsonsPerm.mem_iff] at areUnpaired
    have alike := forall₂_of_holds related areUnpaired
      fun _ _ unpaired both => And.intro (both.1.alike unpaired) both.2
    have same : List.Forall₂ Eq arrangedTexts otherTexts :=
      Entries.forall₂_across (fun _ _ _ _ ⟨alike, distinct, otherDistinct⟩ =>
        Json.render_eq_of_alike Json.isPlain_sortKey rfl alike distinct
          otherDistinct) alike arrangedWritten.flip othersAreWritten
    rw [List.forall₂_eq_eq_eq] at same
    exact same ▸ textsPerm

/-- Entries of a mapping that is reordered become entries that can be paired. -/
theorem exists_members_alike {entries arranged others : List (Value × Value)}
    {members otherMembers : Entries Json} (keyed : HasTextKeys entries)
    (perm : entries.Perm arranged)
    (pairs : List.Forall₂ (fun entry other =>
      entry.1 = other.1 ∧ CanonicalAlike entry.2 other.2) arranged others)
    (converted : canonicalEntries entries = .ok members)
    (otherConverted : canonicalEntries others = .ok otherMembers) :
    Entries.ofList members = members ∧
      Entries.ofList otherMembers = otherMembers ∧
      ∃ reordered otherReordered, members.Perm reordered ∧
        otherMembers.Perm otherReordered ∧
        List.Forall₂ (Entries.Pair fun json other : Json =>
          json.toValue.UnpairedAlike other.toValue)
          reordered otherReordered := by
  obtain ⟨fields, otherFields, rfl, rfl, unique, otherUnique, matched⟩ :=
    exists_matched keyed perm pairs
  obtain ⟨reordered, isPerm, pairs⟩ := matched.exists_pairs unique otherUnique
  have areConverted := pairs_of_canonicalEntries converted
  have othersAreConverted := pairs_of_canonicalEntries otherConverted
  rw [Entries.keys_of_pairs areConverted] at unique
  rw [Entries.keys_of_pairs othersAreConverted] at otherUnique
  exact ⟨Entries.ofList_of_nodup unique, Entries.ofList_of_nodup otherUnique,
    Entries.exists_pairs_across CanonicalAlike.alike isPerm (.refl _) pairs
      areConverted othersAreConverted⟩

theorem canonicalAlike_mapping {entries arranged others : List (Value × Value)}
    (keyed : HasTextKeys entries) (perm : entries.Perm arranged)
    (pairs : List.Forall₂ (fun entry other =>
      entry.1 = other.1 ∧ CanonicalAlike entry.2 other.2) arranged others) :
    CanonicalAlike (.mapping entries) (.mapping others) := by
  intro json otherJson ok otherOk
  obtain ⟨members, converted, made⟩ := exists_of_bind_eq_ok ok
  obtain ⟨otherMembers, otherConverted, otherMade⟩ :=
    exists_of_bind_eq_ok otherOk
  cases made
  cases otherMade
  obtain ⟨same, otherSame, reordered, otherReordered, isPerm, otherIsPerm,
    pairs⟩ := exists_members_alike keyed perm pairs converted otherConverted
  rw [same, otherSame, Json.toValue, Json.toValue, Json.toValueMembers_eq,
    Json.toValueMembers_eq]
  exact unpairedAlike_textEntries isPerm otherIsPerm pairs

mutual

/-- Reordered values have alike canonical forms, unless surrogates make pairs. -/
theorem canonicalAlike_of_reordered : ∀ {value other : Value},
    value.Reordered other → CanonicalAlike value other
  | _, _, .refl value => canonicalAlike_refl value
  | _, _, .list reordered => by
      intro json otherJson ok otherOk
      obtain ⟨jsons, converted, made⟩ := exists_of_bind_eq_ok ok
      obtain ⟨otherJsons, otherConverted, otherMade⟩ :=
        exists_of_bind_eq_ok otherOk
      cases made
      cases otherMade
      exact alike_of_canonicalList (canonicalAlike_of_reorderedList reordered)
        converted otherConverted
  | _, _, .tuple reordered => by
      intro json otherJson ok otherOk
      obtain ⟨jsons, converted, made⟩ := exists_of_bind_eq_ok ok
      obtain ⟨otherJsons, otherConverted, otherMade⟩ :=
        exists_of_bind_eq_ok otherOk
      cases made
      cases otherMade
      exact alike_of_canonicalList (canonicalAlike_of_reorderedList reordered)
        converted otherConverted
  | _, _, .set perm reordered =>
      canonicalAlike_set perm (canonicalAlike_of_reorderedList reordered)
  | _, _, .mapping keyed perm reordered =>
      canonicalAlike_mapping keyed perm
        (canonicalAlike_of_reorderedEntries reordered)

theorem canonicalAlike_of_reorderedList : ∀ {items others : List Value},
    ReorderedList items others → List.Forall₂ CanonicalAlike items others
  | _, _, .nil => .nil
  | _, _, .cons first rest =>
      .cons (canonicalAlike_of_reordered first)
        (canonicalAlike_of_reorderedList rest)

theorem canonicalAlike_of_reorderedEntries :
    ∀ {entries others : List (Value × Value)},
    ReorderedEntries entries others →
    List.Forall₂ (fun entry other =>
      entry.1 = other.1 ∧ CanonicalAlike entry.2 other.2) entries others
  | _, _, .nil => .nil
  | _, _, .cons first rest =>
      .cons ⟨rfl, canonicalAlike_of_reordered first⟩
        (canonicalAlike_of_reorderedEntries rest)

end

end Value

end PaneLayout
