import PaneLayout.Proofs.Json.Encoded
import PaneLayout.Proofs.Json.Reordered
import PaneLayout.Proofs.Value.Relisted

/-!
# Canonical forms of relisted values

A canonical form holds only what JSON has, and it is its own canonical form.
The members of a set are sorted by their texts.  Nothing that a set can hold
becomes an object, so two members with one text are the same unless surrogates
make a pair in them.  Without such pairs a set has the same canonical form
however its members are listed.
-/

namespace PaneLayout

open Value

/-! ### Canonical forms of canonical forms -/

namespace Json

mutual

/-- What is canonical already stays as it is. -/
theorem canonical_toValue : ∀ {json : Json},
    json.toValue.Everywhere HasDistinctKeys →
    json.toValue.canonical = .ok json
  | .null, _ => rfl
  | .bool _, _ => rfl
  | .int _, _ => rfl
  | .float _, _ => rfl
  | .text _, _ => rfl
  | .array items, ⟨_, inside⟩ => by
      rw [toValue, canonical, canonicalList_toValue inside]
      rfl
  | .object members, ⟨here, inside⟩ => by
      rw [toValue, canonical, canonicalEntries_toValue inside]
      refine congrArg (Except.ok ∘ Json.object) ?_
      exact Entries.ofList_of_nodup (hasDistinctKeys_object.mp here)

theorem canonicalList_toValue : ∀ {items : List Json},
    EverywhereList HasDistinctKeys (toValueList items) →
    canonicalList (toValueList items) = .ok items
  | [], _ => rfl
  | _ :: _, ⟨first, rest⟩ => by
      rw [toValueList, canonicalList, canonical_toValue first,
        canonicalList_toValue rest]
      rfl

theorem canonicalEntries_toValue : ∀ {members : List (String × Json)},
    EverywhereEntries HasDistinctKeys (toValueMembers members) →
    canonicalEntries (toValueMembers members) = .ok members
  | [], _ => rfl
  | (_, _) :: _, ⟨_, first, rest⟩ => by
      rw [toValueMembers, canonicalEntries, canonical_toValue first,
        canonicalEntries_toValue rest]
      rfl

end

end Json

/-! ### Values without mappings -/

namespace Value

def IsNoMapping : Value → Prop
  | .mapping _ => False
  | _ => True

mutual

/-- Without mappings there is nothing to be in another order. -/
theorem Alike.eq_of_noMapping : ∀ {value other : Value}, value.Alike other →
    value.Everywhere IsNoMapping → value = other
  | _, _, .refl _, _ => rfl
  | _, _, .list alike, ⟨_, inside⟩ =>
      congrArg Value.list (alike.eq_of_noMapping inside)
  | _, _, .mapping _ _ _, ⟨here, _⟩ => here.elim

theorem AlikeList.eq_of_noMapping : ∀ {items others : List Value},
    AlikeList items others → EverywhereList IsNoMapping items → items = others
  | _, _, .nil, _ => rfl
  | _, _, .cons first rest, ⟨here, later⟩ =>
      congrArg₂ List.cons (first.eq_of_noMapping here)
        (rest.eq_of_noMapping later)

end

/-- What a set is sorted by tells such a value from all others. -/
def IsSortable (value : Value) : Prop :=
  value.IsNoMapping ∧ value.HasUnpairedText

mutual

/-- What a set can hold does not become an object, and if surrogates make no
pair in it, they make none in its canonical form. -/
theorem sortable_canonical : ∀ {value : Value} {json : Json},
    value.isFrozen = true → value.Everywhere HasUnpairedText →
    value.canonical = .ok json → json.toValue.Everywhere IsSortable
  | .null, _, _, _, rfl => ⟨trivial, trivial⟩
  | .bool _, _, _, _, rfl => ⟨trivial, trivial⟩
  | .int _, _, _, _, rfl => ⟨trivial, trivial⟩
  | .float _, _, _, _, rfl => ⟨trivial, trivial⟩
  | .text _, _, _, unpaired, rfl => ⟨trivial, unpaired⟩
  | .bytes octets, _, _, _, rfl =>
      ⟨trivial, isUnpaired_of_encodable (hasSurrogate_base64 octets)⟩
  | .date day, _, _, _, rfl =>
      ⟨trivial, isUnpaired_of_encodable (hasSurrogate_date day)⟩
  | .timestamp moment, _, _, _, rfl =>
      ⟨trivial, isUnpaired_of_encodable
        (hasSurrogate_textWith (by decide) hasSurrogate_offsetText moment)⟩
  | .tuple _, _, isFrozen, unpaired, ok => by
      obtain ⟨jsons, converted, made⟩ := exists_of_bind_eq_ok ok
      cases made
      exact Json.everywhere_array ⟨trivial, trivial⟩
        (sortable_canonicalList isFrozen unpaired.2 converted)
  | .set _, _, isFrozen, unpaired, ok => by
      obtain ⟨jsons, converted, ok⟩ := exists_of_bind_eq_ok ok
      obtain ⟨sorted, inOrder, made⟩ := exists_of_bind_eq_ok ok
      cases made
      refine Json.everywhere_array ⟨trivial, trivial⟩ fun item member => ?_
      exact sortable_canonicalList isFrozen unpaired.2 converted item
        (Json.mem_of_sortMembers inOrder member)

theorem sortable_canonicalList : ∀ {items : List Value} {jsons : List Json},
    isFrozenList items = true → EverywhereList HasUnpairedText items →
    canonicalList items = .ok jsons →
    ∀ json ∈ jsons, json.toValue.Everywhere IsSortable
  | [], _, _, _, rfl => List.forall_mem_nil _
  | _ :: _, _, areFrozen, ⟨unpaired, unpairedRest⟩, ok => by
      obtain ⟨isFrozen, areFrozenRest⟩ := (Bool.and_eq_true _ _).mp areFrozen
      obtain ⟨json, converted, ok⟩ := exists_of_bind_eq_ok ok
      obtain ⟨jsons, convertedRest, made⟩ := exists_of_bind_eq_ok ok
      cases made
      exact List.forall_mem_cons.mpr
        ⟨sortable_canonical isFrozen unpaired converted,
          sortable_canonicalList areFrozenRest unpairedRest convertedRest⟩

end

end Value

/-! ### Sorted members -/

namespace Json

/-- Values with one text are the same if there are no objects and no pairs of
surrogates in them. -/
theorem eq_of_render {json other : Json} {text : String}
    (sortable : json.toValue.Everywhere IsSortable)
    (otherSortable : other.toValue.Everywhere IsSortable)
    (ok : json.render .sortKey = .ok text)
    (otherOk : other.render .sortKey = .ok text) : json = other := by
  have noMapping := Everywhere.mono (fun _ => And.left) _ sortable
  have same : json.toValue = other.toValue :=
    (alike_of_render isPlain_sortKey
      (fun _ => Everywhere.mono (fun _ => And.right) _ sortable)
      (fun _ => Everywhere.mono (fun _ => And.right) _ otherSortable)
      ok otherOk).eq_of_noMapping noMapping
  have distinct : json.toValue.Everywhere HasDistinctKeys :=
    noMapping.mono (fun value here => by cases value <;> trivial) _
  have stays := canonical_toValue distinct
  rw [same, canonical_toValue (same ▸ distinct)] at stays
  exact (Except.ok.inj stays).symm

theorem sortMembers_of_keyed {members : List Json}
    {keyed : List (String × Json)}
    (areKeyed : List.Forall₂ (fun member entry =>
      entry.2 = member ∧ member.render .sortKey = .ok entry.1)
      members keyed) :
    sortMembers members = .ok ((Entries.sortByKey keyed).map Prod.snd) := by
  have mapped : (members.mapM fun member => do
      return (← member.render .sortKey, member) :
        Except Fault (List (String × Json))) = .ok keyed := by
    induction areKeyed with
    | nil => rfl
    | @cons member entry _ _ isKeyed _ induction =>
        obtain ⟨rfl, written⟩ := isKeyed
        rw [List.mapM_cons, induction, written]
        rfl
  rw [sortMembers, mapped]
  rfl

/-- Members that are told by their texts are sorted into one list whatever their
order. -/
theorem sortMembers_of_perm {members others sorted : List Json}
    (perm : others.Perm members)
    (sortable : ∀ member ∈ members, member.toValue.Everywhere IsSortable)
    (ok : sortMembers members = .ok sorted) :
    sortMembers others = .ok sorted := by
  obtain ⟨keyed, areKeyed, rfl⟩ := exists_keyed_of_sortMembers ok
  obtain ⟨otherKeyed, keyedPerm, othersAreKeyed⟩ :=
    Entries.exists_reordered areKeyed.flip perm
  have areWritten : ∀ entry ∈ keyed,
      entry.2.toValue.Everywhere IsSortable ∧
        entry.2.render .sortKey = .ok entry.1 := by
    have both := (List.forall₂_and_left _ _).mpr ⟨sortable, areKeyed⟩
    clear ok perm keyedPerm othersAreKeyed sortable areKeyed
    induction both with
    | nil => exact List.forall_mem_nil _
    | cons isKeyed _ induction =>
        obtain ⟨isSortable, rfl, written⟩ := isKeyed
        exact List.forall_mem_cons.mpr ⟨⟨isSortable, written⟩, induction⟩
  have sortedPerm :
      (Entries.sortByKey otherKeyed).Perm (Entries.sortByKey keyed) :=
    (Entries.sortByKey_perm _).trans
      (keyedPerm.symm.trans (Entries.sortByKey_perm _).symm)
  rw [sortMembers_of_keyed othersAreKeyed.flip, List.Perm.eq_of_pairwise ?_
    (Entries.pairwise_sortByKey otherKeyed)
    (Entries.pairwise_sortByKey keyed) sortedPerm]
  -- Entries with one text hold one value, so the order decides everything.
  intro left right isLeft isRight below above
  obtain ⟨isSortable, leftText⟩ := areWritten left (keyedPerm.mem_iff.mpr
    ((Entries.sortByKey_perm _).mem_iff.mp isLeft))
  obtain ⟨otherIsSortable, rightText⟩ :=
    areWritten right ((Entries.sortByKey_perm _).mem_iff.mp isRight)
  have sameText : left.1 = right.1 := le_antisymm below above
  rw [sameText] at leftText
  exact Prod.ext sameText
    (eq_of_render isSortable otherIsSortable leftText rightText)

end Json

/-! ### Relisted values -/

namespace Value

theorem canonicalList_of_forall₂ {items : List Value} {jsons : List Json}
    (converted : List.Forall₂ (fun value json => value.canonical = .ok json)
      items jsons) : canonicalList items = .ok jsons := by
  induction converted with
  | nil => rfl
  | cons isConverted _ induction =>
      rw [canonicalList, isConverted, induction]
      rfl

/-- Members in another order are converted one by one. -/
theorem canonicalList_of_perm {members arranged : List Value}
    {jsons : List Json} (perm : members.Perm arranged)
    (ok : canonicalList members = .ok jsons) :
    ∃ arrangedJsons, jsons.Perm arrangedJsons ∧
      canonicalList arranged = .ok arrangedJsons := by
  obtain ⟨arrangedJsons, isPerm, converted⟩ :=
    Entries.exists_reordered (forall₂_of_canonicalList ok).flip perm.symm
  exact ⟨arrangedJsons, isPerm, canonicalList_of_forall₂ converted.flip⟩

mutual

/-- Relisted values have the same canonical form. -/
theorem canonical_of_relisted : ∀ {value other : Value} {json : Json},
    value.Relisted other → value.Everywhere IsListable →
    value.canonical = .ok json → other.canonical = .ok json
  | _, _, _, .refl _, _, ok => ok
  | _, _, _, .list relisted, ⟨_, inside⟩, ok => by
      obtain ⟨jsons, converted, made⟩ := exists_of_bind_eq_ok ok
      rw [canonical, canonicalList_of_relisted relisted inside converted]
      exact made
  | _, _, _, .tuple relisted, ⟨_, inside⟩, ok => by
      obtain ⟨jsons, converted, made⟩ := exists_of_bind_eq_ok ok
      rw [canonical, canonicalList_of_relisted relisted inside converted]
      exact made
  | _, _, _, .set perm relisted, ⟨⟨areFrozen, unpaired⟩, inside⟩, ok => by
      obtain ⟨jsons, converted, ok⟩ := exists_of_bind_eq_ok ok
      obtain ⟨sorted, inOrder, made⟩ := exists_of_bind_eq_ok ok
      obtain ⟨arrangedJsons, jsonsPerm, arrangedConverted⟩ :=
        canonicalList_of_perm perm converted
      have arrangedInside := everywhereList_iff.mpr fun member isMember =>
        everywhereList_iff.mp inside member (perm.mem_iff.mpr isMember)
      have otherInOrder := Json.sortMembers_of_perm jsonsPerm.symm
        (sortable_canonicalList areFrozen unpaired converted) inOrder
      rw [canonical, canonicalList_of_relisted relisted arrangedInside
        arrangedConverted]
      change (do return Json.array (← Json.sortMembers arrangedJsons)) = _
      rw [otherInOrder]
      exact made
  | _, _, _, .mapping relisted, ⟨areKeys, inside⟩, ok => by
      obtain ⟨members, converted, made⟩ := exists_of_bind_eq_ok ok
      rw [canonical, canonicalEntries_of_relisted relisted areKeys inside
        converted]
      exact made

theorem canonicalList_of_relisted : ∀ {items others : List Value}
    {jsons : List Json}, RelistedList items others →
    EverywhereList IsListable items → canonicalList items = .ok jsons →
    canonicalList others = .ok jsons
  | _, _, _, .nil, _, ok => ok
  | _, _, _, .cons first rest, ⟨here, later⟩, ok => by
      obtain ⟨json, converted, ok⟩ := exists_of_bind_eq_ok ok
      obtain ⟨jsons, convertedRest, made⟩ := exists_of_bind_eq_ok ok
      rw [canonicalList, canonical_of_relisted first here converted,
        canonicalList_of_relisted rest later convertedRest]
      exact made

theorem canonicalEntries_of_relisted :
    ∀ {entries others : List (Value × Value)} {members : Entries Json},
    RelistedEntries entries others →
    (∀ entry ∈ entries, entry.1.isHashable = true) →
    EverywhereEntries IsListable entries →
    canonicalEntries entries = .ok members →
    canonicalEntries others = .ok members
  | _, _, _, .nil, _, _, ok => ok
  | _, _, _, .cons key value rest, areKeys, ⟨_, here, later⟩, ok => by
      obtain ⟨isKey, areKeysRest⟩ := List.forall_mem_cons.mp areKeys
      obtain ⟨name, named, ok⟩ := exists_of_bind_eq_ok ok
      obtain ⟨json, converted, ok⟩ := exists_of_bind_eq_ok ok
      obtain ⟨members, convertedRest, made⟩ := exists_of_bind_eq_ok ok
      rw [canonicalEntries, ← key.eq_of_isHashable isKey, named,
        canonical_of_relisted value here converted,
        canonicalEntries_of_relisted rest areKeysRest later convertedRest]
      exact made

end

/-! ### Stored forms -/

mutual

/-- What only holds what JSON has is a JSON value. -/
theorem exists_toValue : ∀ {value : Value}, value.Everywhere IsJson →
    ∃ json : Json, json.toValue = value
  | .null, _ => ⟨.null, rfl⟩
  | .bool value, _ => ⟨.bool value, rfl⟩
  | .int n, _ => ⟨.int n, rfl⟩
  | .float x, _ => ⟨.float x, rfl⟩
  | .text content, _ => ⟨.text content, rfl⟩
  | .list _, ⟨_, inside⟩ => by
      obtain ⟨items, same⟩ := exists_toValueList inside
      exact ⟨.array items, congrArg Value.list same⟩
  | .mapping _, ⟨areTexts, inside⟩ => by
      obtain ⟨members, same⟩ := exists_toValueMembers areTexts inside
      exact ⟨.object members, congrArg Value.mapping same⟩
  | .tuple _, isJson => isJson.1.elim
  | .set _, isJson => isJson.1.elim

theorem exists_toValueList : ∀ {items : List Value},
    EverywhereList IsJson items → ∃ jsons, Json.toValueList jsons = items
  | [], _ => ⟨[], rfl⟩
  | _ :: _, ⟨first, rest⟩ => by
      obtain ⟨json, same⟩ := exists_toValue first
      obtain ⟨jsons, sameRest⟩ := exists_toValueList rest
      exact ⟨json :: jsons, congrArg₂ List.cons same sameRest⟩

theorem exists_toValueMembers : ∀ {entries : List (Value × Value)},
    (∀ entry ∈ entries, ∃ key, entry.1 = .text key) →
    EverywhereEntries IsJson entries →
    ∃ members, Json.toValueMembers members = entries
  | [], _, _ => ⟨[], rfl⟩
  | (_, _) :: _, areTexts, ⟨_, first, rest⟩ => by
      obtain ⟨⟨key, isText⟩, areTextsRest⟩ := List.forall_mem_cons.mp areTexts
      obtain ⟨json, same⟩ := exists_toValue first
      obtain ⟨members, sameRest⟩ := exists_toValueMembers areTextsRest rest
      cases isText
      exact ⟨(key, json) :: members,
        congrArg₂ List.cons (congrArg (Prod.mk _) same) sameRest⟩

end

/-- The value is stored in a form that only holds what JSON has, that is stored
as it stands, and that is the same for each listing of a value that can be
listed in several ways. -/
structure IsStored (value : Value) (json : Json) : Prop where
  canonical : value.canonical = .ok json
  isJson : json.toValue.Everywhere IsJson
  again : json.toValue.canonical = .ok json
  relisted : value.Everywhere IsListable →
    ∀ other, value.Relisted other → other.canonical = .ok json

theorem isStored_of_canonical {value : Value} {json : Json}
    (ok : value.canonical = .ok json) : value.IsStored json where
  canonical := ok
  isJson := Json.toValue_isJson json
  again := Json.canonical_toValue (hasDistinctKeys_canonical ok)
  relisted listable _ relisted := canonical_of_relisted relisted listable ok

/-- A value of the kinds that JSON has is stored as it is. -/
theorem exists_isStored {value : Value} (isJson : value.Everywhere IsJson)
    (distinct : value.Everywhere HasDistinctKeys) :
    ∃ json : Json, json.toValue = value ∧ value.IsStored json := by
  obtain ⟨json, rfl⟩ := exists_toValue isJson
  exact ⟨json, rfl, isStored_of_canonical (Json.canonical_toValue distinct)⟩

end Value

end PaneLayout
