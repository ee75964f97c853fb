import PaneLayout.Proofs.Json.Readable
import PaneLayout.Proofs.Json.Recorded
import PaneLayout.Proofs.Value.Keys

/-!
# Values that are saved without loss

A value of the kinds that JSON has is saved as it is, unless a double is not
finite or two entries of a mapping have the same key.  In no canonical form and in
no saved one is a key twice in an object, whatever it was made of.
-/

namespace PaneLayout

namespace Value

/-- Doubles are finite. -/
def HasFiniteDoubles : Value → Prop
  | .float x => x.isFinite = true
  | _ => True

instance (value : Value) : Decidable value.HasFiniteDoubles :=
  match value with
  | .float x => inferInstanceAs (Decidable (x.isFinite = true))
  | .null | .bool _ | .int _ | .text _ | .bytes _ | .date _ | .timestamp _
  | .list _ | .tuple _ | .set _ | .mapping _ => inferInstanceAs (Decidable True)

/-- The value is of the kinds that JSON has, no two entries of a mapping have
one key, and doubles are finite. -/
structure IsExact (value : Value) : Prop where
  isJson : value.Everywhere IsJson
  distinct : value.Everywhere HasDistinctKeys
  finite : value.Everywhere HasFiniteDoubles

/-- Texts are distinct keys if they are different. -/
theorem distinctKeys_iff {α : Type} {entries : Entries α}
    (content : String × α → Value) :
    DistinctKeys (entries.map fun entry =>
      (.text entry.1, content entry)) ↔ entries.keys.Nodup := by
  have differ (first second : String) :
      agrees (.text second) (.text first) = false ↔ first ≠ second := by
    rw [agrees_text]
    simp [isText]
  rw [DistinctKeys, List.pairwise_map, Entries.keys,
    List.nodup_iff_pairwise_ne, List.pairwise_map]
  simp only [differ]

theorem IsExact.items {items : List Value} (exact : IsExact (.list items)) :
    ∀ item ∈ items, item.IsExact := by
  intro item member
  constructor
  · exact everywhereList_iff.mp exact.isJson.2 item member
  · exact everywhereList_iff.mp exact.distinct.2 item member
  · exact everywhereList_iff.mp exact.finite.2 item member

theorem IsExact.values {entries : List (Value × Value)}
    (exact : IsExact (.mapping entries)) :
    ∀ entry ∈ entries, entry.2.IsExact := by
  intro entry member
  constructor
  · exact (everywhereEntries_iff.mp exact.isJson.2 entry member).2
  · exact (everywhereEntries_iff.mp exact.distinct.2 entry member).2
  · exact (everywhereEntries_iff.mp exact.finite.2 entry member).2

theorem isExact_list {items : List Value}
    (inside : ∀ item ∈ items, item.IsExact) : IsExact (.list items) where
  isJson := ⟨trivial, everywhereList_iff.mpr
    fun item member => (inside item member).isJson⟩
  distinct := ⟨trivial, everywhereList_iff.mpr
    fun item member => (inside item member).distinct⟩
  finite := ⟨trivial, everywhereList_iff.mpr
    fun item member => (inside item member).finite⟩

theorem isExact_record {fields : Entries Value} (unique : fields.keys.Nodup)
    (inside : ∀ field ∈ fields, field.2.IsExact) :
    IsExact (.record fields) where
  isJson := ⟨List.forall_mem_map.mpr fun field _ => ⟨field.1, rfl⟩,
    everywhereEntries_iff.mpr (List.forall_mem_map.mpr
      fun field member => ⟨trivial, (inside field member).isJson⟩)⟩
  distinct := ⟨(distinctKeys_iff Prod.snd).mpr unique,
    everywhereEntries_iff.mpr (List.forall_mem_map.mpr
      fun field member => ⟨trivial, (inside field member).distinct⟩)⟩
  finite := ⟨trivial, everywhereEntries_iff.mpr (List.forall_mem_map.mpr
    fun field member => ⟨trivial, (inside field member).finite⟩)⟩

end Value

namespace Json

open Value

theorem everywhere_array {property : Value → Prop} {items : List Json}
    (here : property (array items).toValue)
    (inside : ∀ item ∈ items, item.toValue.Everywhere property) :
    (array items).toValue.Everywhere property := by
  rw [toValue, toValueList_eq] at here ⊢
  exact ⟨here, everywhereList_iff.mpr (List.forall_mem_map.mpr inside)⟩

theorem everywhere_object {property : Value → Prop}
    {members : List (String × Json)}
    (here : property (object members).toValue)
    (ofText : ∀ key, property (.text key))
    (inside : ∀ member ∈ members, member.2.toValue.Everywhere property) :
    (object members).toValue.Everywhere property := by
  rw [toValue, toValueMembers_eq] at here ⊢
  refine ⟨here, everywhereEntries_iff.mpr (List.forall_mem_map.mpr ?_)⟩
  intro member isMember
  exact ⟨ofText member.1, inside member isMember⟩

/-- The members of an object have distinct keys as entries of a mapping. -/
theorem hasDistinctKeys_object {members : List (String × Json)} :
    (object members).toValue.HasDistinctKeys ↔
      (Entries.keys members).Nodup := by
  rw [toValue, toValueMembers_eq]
  exact distinctKeys_iff fun member : String × Json => member.2.toValue

end Json

namespace Value

open Json

mutual

/-- In a canonical form no object has a key twice. -/
theorem hasDistinctKeys_canonical : ∀ {value : Value} {json : Json},
    value.canonical = .ok json → json.toValue.Everywhere HasDistinctKeys
  | .null, _, rfl => trivial
  | .bool _, _, rfl => trivial
  | .int _, _, rfl => trivial
  | .float _, _, rfl => trivial
  | .text _, _, rfl => trivial
  | .bytes _, _, rfl => trivial
  | .date _, _, rfl => trivial
  | .timestamp _, _, rfl => trivial
  | .list _, _, ok => by
      obtain ⟨jsons, converted, made⟩ := exists_of_bind_eq_ok ok
      cases made
      exact everywhere_array trivial
        (hasDistinctKeys_canonicalList converted)
  | .tuple _, _, ok => by
      obtain ⟨jsons, converted, made⟩ := exists_of_bind_eq_ok ok
      cases made
      exact everywhere_array trivial
        (hasDistinctKeys_canonicalList converted)
  | .set _, _, ok => by
      obtain ⟨jsons, converted, ok⟩ := exists_of_bind_eq_ok ok
      obtain ⟨sorted, inOrder, made⟩ := exists_of_bind_eq_ok ok
      cases made
      refine everywhere_array trivial fun item member => ?_
      exact hasDistinctKeys_canonicalList converted item
        (mem_of_sortMembers inOrder member)
  | .mapping _, _, ok => by
      obtain ⟨members, converted, made⟩ := exists_of_bind_eq_ok ok
      cases made
      refine everywhere_object (hasDistinctKeys_object.mpr
        (Entries.keys_nodup_ofList members)) (fun _ => trivial) ?_
      intro member isMember
      exact hasDistinctKeys_canonicalEntries converted member
        (Entries.mem_ofList isMember)

theorem hasDistinctKeys_canonicalList : ∀ {items : List Value}
    {jsons : List Json}, canonicalList items = .ok jsons →
    ∀ json ∈ jsons, json.toValue.Everywhere HasDistinctKeys
  | [], _, rfl => List.forall_mem_nil _
  | _ :: _, _, ok => by
      obtain ⟨json, converted, ok⟩ := exists_of_bind_eq_ok ok
      obtain ⟨jsons, convertedRest, made⟩ := exists_of_bind_eq_ok ok
      cases made
      exact List.forall_mem_cons.mpr ⟨hasDistinctKeys_canonical converted,
        hasDistinctKeys_canonicalList convertedRest⟩

theorem hasDistinctKeys_canonicalEntries : ∀ {entries : List (Value × Value)}
    {members : Entries Json}, canonicalEntries entries = .ok members →
    ∀ member ∈ members, member.2.toValue.Everywhere HasDistinctKeys
  | [], _, rfl => List.forall_mem_nil _
  | (_, _) :: _, _, ok => by
      obtain ⟨name, _, ok⟩ := exists_of_bind_eq_ok ok
      obtain ⟨json, converted, ok⟩ := exists_of_bind_eq_ok ok
      obtain ⟨members, convertedRest, made⟩ := exists_of_bind_eq_ok ok
      cases made
      exact List.forall_mem_cons.mpr ⟨hasDistinctKeys_canonical converted,
        hasDistinctKeys_canonicalEntries convertedRest⟩

end

mutual

/-- In a saved form no object has a key twice. -/
theorem hasDistinctKeys_saved : ∀ {value : Value} {json : Json},
    value.saved = .ok json → json.toValue.Everywhere HasDistinctKeys
  | .null, _, rfl => trivial
  | .bool _, _, rfl => trivial
  | .int _, _, rfl => trivial
  | .float x, _, ok => by
      cases ok
      split <;> trivial
  | .text _, _, rfl => trivial
  | .bytes octets, _, ok => by
      unfold saved at ok
      cases decoded : decodeText octets with
      | error _ =>
          rw [decoded] at ok
          cases ok
      | ok _ =>
          rw [decoded] at ok
          cases ok
          trivial
  | .date _, _, rfl => trivial
  | .timestamp _, _, rfl => trivial
  | .list _, _, ok => by
      obtain ⟨jsons, saved, made⟩ := exists_of_bind_eq_ok ok
      cases made
      exact everywhere_array trivial (hasDistinctKeys_savedList saved)
  | .tuple _, _, ok => by
      obtain ⟨jsons, saved, made⟩ := exists_of_bind_eq_ok ok
      cases made
      exact everywhere_array trivial (hasDistinctKeys_savedList saved)
  | .set _, _, ok => by
      obtain ⟨jsons, saved, made⟩ := exists_of_bind_eq_ok ok
      cases made
      exact everywhere_array trivial (hasDistinctKeys_savedList saved)
  | .mapping _, _, ok => by
      obtain ⟨members, saved, made⟩ := exists_of_bind_eq_ok ok
      cases made
      refine everywhere_object (hasDistinctKeys_object.mpr
        (Entries.keys_nodup_ofList members)) (fun _ => trivial) ?_
      intro member isMember
      exact hasDistinctKeys_savedEntries saved member
        (Entries.mem_ofList isMember)

theorem hasDistinctKeys_savedList : ∀ {items : List Value}
    {jsons : List Json}, savedList items = .ok jsons →
    ∀ json ∈ jsons, json.toValue.Everywhere HasDistinctKeys
  | [], _, rfl => List.forall_mem_nil _
  | _ :: _, _, ok => by
      obtain ⟨json, saved, ok⟩ := exists_of_bind_eq_ok ok
      obtain ⟨jsons, savedRest, made⟩ := exists_of_bind_eq_ok ok
      cases made
      exact List.forall_mem_cons.mpr ⟨hasDistinctKeys_saved saved,
        hasDistinctKeys_savedList savedRest⟩

theorem hasDistinctKeys_savedEntries : ∀ {entries : List (Value × Value)}
    {members : Entries Json}, savedEntries entries = .ok members →
    ∀ member ∈ members, member.2.toValue.Everywhere HasDistinctKeys
  | [], _, rfl => List.forall_mem_nil _
  | (_, _) :: _, _, ok => by
      obtain ⟨_, _, ok⟩ := exists_of_bind_eq_ok ok
      obtain ⟨json, saved, ok⟩ := exists_of_bind_eq_ok ok
      obtain ⟨members, savedRest, made⟩ := exists_of_bind_eq_ok ok
      cases made
      exact List.forall_mem_cons.mpr ⟨hasDistinctKeys_saved saved,
        hasDistinctKeys_savedEntries savedRest⟩

end

mutual

/-- A value that is saved without loss is found again in its saved form. -/
theorem toValue_saved : ∀ {value : Value} {json : Json}, value.IsExact →
    value.saved = .ok json → json.toValue = value
  | .null, _, _, rfl => rfl
  | .bool _, _, _, rfl => rfl
  | .int _, _, _, rfl => rfl
  | .float x, _, exact, ok => by
      cases ok
      have isFinite : x.isFinite = true := exact.finite
      rw [if_pos isFinite]
      rfl
  | .text _, _, _, rfl => rfl
  | .bytes _, _, exact, _ => exact.isJson.elim
  | .date _, _, exact, _ => exact.isJson.elim
  | .timestamp _, _, exact, _ => exact.isJson.elim
  | .list _, _, exact, ok => by
      obtain ⟨jsons, saved, made⟩ := exists_of_bind_eq_ok ok
      cases made
      exact congrArg Value.list (toValueList_saved exact.items saved)
  | .tuple _, _, exact, _ => exact.isJson.1.elim
  | .set _, _, exact, _ => exact.isJson.1.elim
  | .mapping _, _, exact, ok => by
      obtain ⟨members, saved, made⟩ := exists_of_bind_eq_ok ok
      cases made
      have same := toValueMembers_saved exact.isJson.1 exact.values saved
      have distinct := exact.distinct.here
      rw [← same] at distinct
      rw [Entries.ofList_of_nodup (hasDistinctKeys_object.mp distinct)]
      exact congrArg Value.mapping same

theorem toValueList_saved : ∀ {items : List Value} {jsons : List Json},
    (∀ item ∈ items, item.IsExact) → savedList items = .ok jsons →
    toValueList jsons = items
  | [], _, _, rfl => rfl
  | _ :: _, _, exact, ok => by
      obtain ⟨first, rest⟩ := List.forall_mem_cons.mp exact
      obtain ⟨json, saved, ok⟩ := exists_of_bind_eq_ok ok
      obtain ⟨jsons, savedRest, made⟩ := exists_of_bind_eq_ok ok
      cases made
      rw [toValueList, toValue_saved first saved,
        toValueList_saved rest savedRest]

theorem toValueMembers_saved : ∀ {entries : List (Value × Value)}
    {members : Entries Json},
    (∀ entry ∈ entries, ∃ key, entry.1 = .text key) →
    (∀ entry ∈ entries, entry.2.IsExact) →
    savedEntries entries = .ok members → toValueMembers members = entries
  | [], _, _, _, rfl => rfl
  | (key, _) :: _, _, textKeys, exact, ok => by
      obtain ⟨⟨name, isText⟩, textKeysRest⟩ := List.forall_mem_cons.mp textKeys
      obtain ⟨first, rest⟩ := List.forall_mem_cons.mp exact
      dsimp only at isText
      rw [isText] at ok
      obtain ⟨_, saidName, ok⟩ := exists_of_bind_eq_ok ok
      obtain ⟨json, saved, ok⟩ := exists_of_bind_eq_ok ok
      obtain ⟨members, savedRest, made⟩ := exists_of_bind_eq_ok ok
      cases saidName
      cases made
      rw [toValueMembers, toValue_saved first saved,
        toValueMembers_saved textKeysRest rest savedRest, isText]

end

/-- The members that a record is saved as belong to its fields. -/
theorem pairs_of_savedEntries {fields : Entries Value}
    {members : Entries Json}
    (ok : savedEntries (textEntries id fields) = .ok members) :
    List.Forall₂ (Entries.Pair fun value json => value.saved = .ok json)
      fields members := by
  induction fields generalizing members with
  | nil =>
      cases ok
      exact .nil
  | cons field fields induction =>
      obtain ⟨_, saidName, ok⟩ := exists_of_bind_eq_ok ok
      obtain ⟨json, saved, ok⟩ := exists_of_bind_eq_ok ok
      obtain ⟨others, savedRest, made⟩ := exists_of_bind_eq_ok ok
      cases saidName
      cases made
      exact .cons ⟨rfl, saved⟩ (induction savedRest)

/-- A record is saved as a record that has every field that is saved without
loss. -/
theorem exists_record_of_saved {fields : Entries Value} {json : Json}
    (ok : (record fields).saved = .ok json) (unique : fields.keys.Nodup) :
    ∃ recorded : Entries Value, json.toValue = .record recorded ∧
      recorded.keys.Nodup ∧
      ∀ field ∈ fields, field.2.IsExact → field ∈ recorded := by
  obtain ⟨members, savedMembers, made⟩ := exists_of_bind_eq_ok ok
  cases made
  have pairs := pairs_of_savedEntries savedMembers
  rw [Entries.keys_of_pairs pairs] at unique
  rw [Entries.ofList_of_nodup unique, toValue, toValueMembers_eq]
  refine ⟨members.map fun member => (member.1, member.2.toValue), ?_, ?_, ?_⟩
  · rw [record, List.map_map]
    rfl
  · rwa [Entries.keys, List.map_map]
  · intro field isField exact
    obtain ⟨json, found, saved⟩ := Entries.exists_of_pairs pairs isField
    refine List.mem_map.mpr ⟨(field.1, json), found, ?_⟩
    rw [toValue_saved exact saved]

end Value

end PaneLayout
