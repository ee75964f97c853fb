import PaneLayout.Proofs.Json.Exact

/-!
# Alike values have one text

A style that sorts members by their keys writes alike values in the same way, as
long as no object has a key twice.  Values that are alike are also saved as alike
values, so that the order of mappings is lost in the canonical text of what is
saved.
-/

namespace PaneLayout

open Value

namespace Json

/-! ### Written items and members -/

variable {style : Style}

/-- Everything alike has this text, as far as it has one. -/
def OnlyText (style : Style) (json : Json) (text : String) : Prop :=
  ∀ (other : Json) (level : Nat) (otherText : String),
    json.toValue.Alike other.toValue →
    other.toValue.Everywhere HasDistinctKeys →
    other.textAt style level = .ok otherText → otherText = text

/-- No object has a key twice, and the text is the one that is written. -/
def WrittenAs (style : Style) (level : Nat) (json : Json)
    (text : String) : Prop :=
  json.toValue.Everywhere HasDistinctKeys ∧ json.textAt style level = .ok text

theorem OnlyText.eq (level : Nat) (json other : Json) (text otherText : String)
    (alike : json.toValue.Alike other.toValue) (only : OnlyText style json text)
    (written : WrittenAs style level other otherText) : text = otherText :=
  (only other level otherText alike written.1 written.2).symm

theorem writtenAs_of_textList {level : Nat} {items : List Json}
    {texts : List String}
    (distinct : EverywhereList HasDistinctKeys (toValueList items))
    (ok : textList style level items = .ok texts) :
    List.Forall₂ (WrittenAs style level) items texts := by
  induction items generalizing texts with
  | nil =>
      cases ok
      exact .nil
  | cons item items induction =>
      obtain ⟨here, later⟩ := distinct
      obtain ⟨text, written, ok⟩ := exists_of_bind_eq_ok ok
      obtain ⟨texts, writtenRest, made⟩ := exists_of_bind_eq_ok ok
      cases made
      exact .cons ⟨here, written⟩ (induction later writtenRest)

theorem writtenAs_of_textMembers {level : Nat}
    {members : List (String × Json)} {written : List (String × String)}
    (distinct : EverywhereEntries HasDistinctKeys (toValueMembers members))
    (ok : textMembers style level members = .ok written) :
    List.Forall₂ (Entries.Pair (WrittenAs style level)) members written := by
  induction members generalizing written with
  | nil =>
      cases ok
      exact .nil
  | cons member members induction =>
      obtain ⟨_, here, later⟩ := distinct
      obtain ⟨text, isText, ok⟩ := exists_of_bind_eq_ok ok
      obtain ⟨others, writtenRest, made⟩ := exists_of_bind_eq_ok ok
      cases made
      exact .cons ⟨rfl, here, isText⟩ (induction later writtenRest)

/-- Members with distinct keys are sorted into one order. -/
theorem arrange_eq_of_perm (sorts : style.sortsKeys = true)
    {written others : List (String × String)}
    (unique : (Entries.keys written).Nodup) (perm : written.Perm others) :
    arrange style written = arrange style others := by
  have sorted (members : List (String × String)) :
      (arrange style members).Pairwise fun left right => left.1 ≤ right.1 := by
    rw [arrange, if_pos sorts]
    exact Entries.pairwise_sortByKey members
  refine List.Perm.eq_of_pairwise ?_ (sorted written) (sorted others)
    ((arrange_perm written).trans (perm.trans (arrange_perm others).symm))
  intro member other isMember isOther least greatest
  have isWritten := (arrange_perm written).mem_iff.mp isMember
  have otherIsWritten :=
    perm.mem_iff.mpr ((arrange_perm others).mem_iff.mp isOther)
  exact List.inj_on_of_nodup_map unique isWritten otherIsWritten
    (le_antisymm least greatest)

theorem enclose_flat (isPlain : style.IsPlain) (level otherLevel : Nat)
    (opening closing : String) (items : List String) :
    enclose style level opening closing items =
      enclose style otherLevel opening closing items := by
  unfold enclose
  rw [isPlain.indent]
  cases items <;> rfl

/-! ### Texts of alike values -/

theorem onlyText_array (isPlain : style.IsPlain) {level : Nat}
    {items : List Json} {texts : List String}
    (areOnly : List.Forall₂ (OnlyText style) items texts) :
    OnlyText style (.array items) (enclose style level "[" "]" texts) := by
  intro other otherLevel otherText alike distinct ok
  cases other with
  | array others =>
      obtain ⟨otherTexts, written, made⟩ := exists_of_bind_eq_ok ok
      cases made
      have areAlike := alike.items
      rw [toValueList_eq, toValueList_eq, List.forall₂_map_left_iff,
        List.forall₂_map_right_iff] at areAlike
      have same : List.Forall₂ Eq texts otherTexts :=
        Entries.forall₂_across (OnlyText.eq _) areAlike areOnly
          (writtenAs_of_textList distinct.2 written)
      rw [List.forall₂_eq_eq_eq] at same
      rw [same]
      exact enclose_flat isPlain _ _ _ _ _
  | _ => cases alike

theorem onlyText_object (isPlain : style.IsPlain)
    (sorts : style.sortsKeys = true) {level : Nat}
    {members : List (String × Json)} {written : List (String × String)}
    (unique : (Entries.keys members).Nodup)
    (areOnly : List.Forall₂ (Entries.Pair (OnlyText style)) members written) :
    OnlyText style (.object members)
      (enclose style level "\x7b" "\x7d"
        ((arrange style written).map (memberText style))) := by
  intro other otherLevel otherText alike distinct ok
  cases other with
  | object others =>
      obtain ⟨otherWritten, isWritten, made⟩ := exists_of_bind_eq_ok ok
      cases made
      obtain ⟨arranged, otherArranged, perm, otherPerm, pairs⟩ :=
        alike_object_iff.mp alike
      obtain ⟨reordered, otherReordered, isPerm, otherIsPerm, same⟩ :=
        Entries.exists_pairs_across (OnlyText.eq _) perm
          otherPerm pairs areOnly
          (writtenAs_of_textMembers distinct.2 isWritten)
      rw [← Entries.eq_of_pairs same] at otherIsPerm
      rw [Entries.keys_of_pairs areOnly] at unique
      rw [arrange_eq_of_perm sorts unique (isPerm.trans otherIsPerm.symm)]
      exact enclose_flat isPlain _ _ _ _ _
  | _ => cases alike

mutual

theorem onlyText_of_textAt (isPlain : style.IsPlain)
    (sorts : style.sortsKeys = true) (level : Nat) : ∀ json : Json,
    json.toValue.Everywhere HasDistinctKeys → ∀ text,
    json.textAt style level = .ok text → OnlyText style json text
  | .null => by
      intro _ _ ok other _ _ alike _ otherOk
      cases other <;> cases alike
      exact Except.ok.inj (otherOk.symm.trans ok)
  | .bool _ => by
      intro _ _ ok other _ _ alike _ otherOk
      cases other <;> cases alike
      exact Except.ok.inj (otherOk.symm.trans ok)
  | .int _ => by
      intro _ _ ok other _ _ alike _ otherOk
      cases other <;> cases alike
      rw [textAt] at ok otherOk
      exact Except.ok.inj (otherOk.symm.trans ok)
  | .float _ => by
      intro _ _ ok other _ _ alike _ otherOk
      cases other <;> cases alike
      exact Except.ok.inj (otherOk.symm.trans ok)
  | .text _ => by
      intro _ _ ok other _ _ alike _ otherOk
      cases other <;> cases alike
      exact Except.ok.inj (otherOk.symm.trans ok)
  | .array items => by
      intro distinct _ ok
      obtain ⟨texts, written, made⟩ := exists_of_bind_eq_ok ok
      cases made
      exact onlyText_array isPlain
        (onlyText_of_textList isPlain sorts (level + 1) items distinct.2 texts
          written)
  | .object members => by
      intro distinct _ ok
      obtain ⟨texts, written, made⟩ := exists_of_bind_eq_ok ok
      cases made
      exact onlyText_object isPlain sorts
        (hasDistinctKeys_object.mp distinct.here)
        (onlyText_of_textMembers isPlain sorts (level + 1) members distinct.2
          texts written)

theorem onlyText_of_textList (isPlain : style.IsPlain)
    (sorts : style.sortsKeys = true) (level : Nat) : ∀ items : List Json,
    EverywhereList HasDistinctKeys (toValueList items) → ∀ texts,
    textList style level items = .ok texts →
    List.Forall₂ (OnlyText style) items texts
  | [] => by
      intro _ _ ok
      cases ok
      exact .nil
  | item :: items => by
      intro ⟨here, later⟩ _ ok
      obtain ⟨text, written, ok⟩ := exists_of_bind_eq_ok ok
      obtain ⟨texts, writtenRest, made⟩ := exists_of_bind_eq_ok ok
      cases made
      exact .cons
        (onlyText_of_textAt isPlain sorts level item here text written)
        (onlyText_of_textList isPlain sorts level items later texts writtenRest)

theorem onlyText_of_textMembers (isPlain : style.IsPlain)
    (sorts : style.sortsKeys = true) (level : Nat) :
    ∀ members : List (String × Json),
    EverywhereEntries HasDistinctKeys (toValueMembers members) → ∀ written,
    textMembers style level members = .ok written →
    List.Forall₂ (Entries.Pair (OnlyText style)) members written
  | [] => by
      intro _ _ ok
      cases ok
      exact .nil
  | (key, item) :: members => by
      intro ⟨_, here, later⟩ _ ok
      obtain ⟨text, isText, ok⟩ := exists_of_bind_eq_ok ok
      obtain ⟨others, writtenRest, made⟩ := exists_of_bind_eq_ok ok
      cases made
      exact .cons
        ⟨rfl, onlyText_of_textAt isPlain sorts level item here text isText⟩
        (onlyText_of_textMembers isPlain sorts level members later others
          writtenRest)

end

/-- Alike values have the same text if members are sorted by their keys. -/
theorem render_eq_of_alike (isPlain : style.IsPlain)
    (sorts : style.sortsKeys = true) {json other : Json}
    {text otherText : String} (alike : json.toValue.Alike other.toValue)
    (distinct : json.toValue.Everywhere HasDistinctKeys)
    (otherDistinct : other.toValue.Everywhere HasDistinctKeys)
    (ok : json.render style = .ok text)
    (otherOk : other.render style = .ok otherText) : text = otherText :=
  (onlyText_of_textAt isPlain sorts 0 json distinct text ok other 0 otherText
    alike otherDistinct otherOk).symm

end Json

/-! ### Saved forms -/

namespace Value

/-- The values are saved as alike values, as far as they are saved. -/
def SavedAlike (value other : Value) : Prop :=
  ∀ (json otherJson : Json), value.saved = .ok json →
    other.saved = .ok otherJson → json.toValue.Alike otherJson.toValue

theorem savedAlike_refl (value : Value) : SavedAlike value value := by
  intro json otherJson saved otherSaved
  cases saved.symm.trans otherSaved
  exact .refl _

theorem pair_savedAlike (key : String) (value : Value) :
    Entries.Pair SavedAlike (key, value) (key, value) :=
  ⟨rfl, savedAlike_refl value⟩

theorem forall₂_of_savedList {items : List Value} {jsons : List Json}
    (ok : savedList items = .ok jsons) :
    List.Forall₂ (fun value json => value.saved = .ok json) items jsons := by
  induction items generalizing jsons with
  | nil =>
      cases ok
      exact .nil
  | cons item items induction =>
      obtain ⟨json, saved, ok⟩ := exists_of_bind_eq_ok ok
      obtain ⟨jsons, savedRest, made⟩ := exists_of_bind_eq_ok ok
      cases made
      exact .cons saved (induction savedRest)

theorem SavedAlike.alike (value other : Value) (json otherJson : Json)
    (alike : SavedAlike value other) (saved : value.saved = .ok json)
    (otherSaved : other.saved = .ok otherJson) :
    json.toValue.Alike otherJson.toValue :=
  alike json otherJson saved otherSaved

theorem savedAlike_list {items others : List Value}
    (alike : List.Forall₂ SavedAlike items others) :
    SavedAlike (.list items) (.list others) := by
  intro json otherJson ok otherOk
  obtain ⟨jsons, saved, made⟩ := exists_of_bind_eq_ok ok
  obtain ⟨otherJsons, otherSaved, otherMade⟩ := exists_of_bind_eq_ok otherOk
  cases made
  cases otherMade
  exact Json.alike_array (Entries.forall₂_across SavedAlike.alike alike
    (forall₂_of_savedList saved) (forall₂_of_savedList otherSaved))

/-- A record is saved with its fields in order, but the order does not count. -/
theorem savedAlike_record {fields arranged others otherArranged : Entries Value}
    (unique : fields.keys.Nodup) (otherUnique : others.keys.Nodup)
    (perm : fields.Perm arranged) (otherPerm : others.Perm otherArranged)
    (pairs : List.Forall₂ (Entries.Pair SavedAlike) arranged otherArranged) :
    SavedAlike (.record fields) (.record others) := by
  intro json otherJson ok otherOk
  obtain ⟨members, saved, made⟩ := exists_of_bind_eq_ok ok
  obtain ⟨otherMembers, otherSaved, otherMade⟩ := exists_of_bind_eq_ok otherOk
  cases made
  cases otherMade
  have areSaved := pairs_of_savedEntries saved
  have othersAreSaved := pairs_of_savedEntries otherSaved
  rw [Entries.keys_of_pairs areSaved] at unique
  rw [Entries.keys_of_pairs othersAreSaved] at otherUnique
  rw [Entries.ofList_of_nodup unique, Entries.ofList_of_nodup otherUnique]
  exact Json.alike_object_iff.mpr (Entries.exists_pairs_across
    SavedAlike.alike perm otherPerm pairs areSaved othersAreSaved)

/-- The value is of the kinds that JSON has, and no two entries of a mapping
have one key. -/
structure IsKeyed (value : Value) : Prop where
  isJson : value.Everywhere IsJson
  distinct : value.Everywhere HasDistinctKeys

theorem IsKeyed.items {items : List Value} (isKeyed : IsKeyed (.list items)) :
    ∀ item ∈ items, item.IsKeyed := fun item member =>
  ⟨everywhereList_iff.mp isKeyed.isJson.2 item member,
    everywhereList_iff.mp isKeyed.distinct.2 item member⟩

theorem IsKeyed.values {entries : List (Value × Value)}
    (isKeyed : IsKeyed (.mapping entries)) :
    ∀ entry ∈ entries, entry.2.IsKeyed := fun entry member =>
  ⟨(everywhereEntries_iff.mp isKeyed.isJson.2 entry member).2,
    (everywhereEntries_iff.mp isKeyed.distinct.2 entry member).2⟩

/-- A mapping without other keys than texts is a record. -/
theorem IsKeyed.exists_record {entries : List (Value × Value)}
    (isKeyed : IsKeyed (.mapping entries)) :
    ∃ fields, entries = textEntries id fields ∧ fields.keys.Nodup := by
  obtain ⟨fields, rfl⟩ := exists_textEntries isKeyed.isJson.1
  exact ⟨fields, rfl, (distinctKeys_iff Prod.snd).mp isKeyed.distinct.1⟩

theorem savedAlike_mapping {entries arranged others otherArranged :
      List (Value × Value)}
    (isKeyed : IsKeyed (.mapping entries))
    (otherIsKeyed : IsKeyed (.mapping others)) (perm : entries.Perm arranged)
    (otherPerm : others.Perm otherArranged)
    (pairs : List.Forall₂ (fun entry other =>
      entry.1 = other.1 ∧ SavedAlike entry.2 other.2) arranged otherArranged) :
    SavedAlike (.mapping entries) (.mapping others) := by
  obtain ⟨fields, rfl, unique⟩ := isKeyed.exists_record
  obtain ⟨others, rfl, otherUnique⟩ := otherIsKeyed.exists_record
  obtain ⟨arranged, isPerm, rfl⟩ := exists_of_textEntries_perm perm
  obtain ⟨otherArranged, otherIsPerm, rfl⟩ :=
    exists_of_textEntries_perm otherPerm
  rw [textEntries, textEntries, List.forall₂_map_left_iff,
    List.forall₂_map_right_iff] at pairs
  exact savedAlike_record unique otherUnique isPerm otherIsPerm
    (pairs.imp fun _ _ pair => ⟨Value.text.inj pair.1, pair.2⟩)

mutual

/-- Alike values of the kinds that JSON has are saved as alike values. -/
theorem savedAlike_of_alike : ∀ {value other : Value}, value.Alike other →
    value.IsKeyed → other.IsKeyed → SavedAlike value other
  | _, _, .refl value, _, _ => savedAlike_refl value
  | _, _, .list alike, isKeyed, otherIsKeyed =>
      savedAlike_list
        (savedAlike_of_alikeList alike isKeyed.items otherIsKeyed.items)
  | _, _, .mapping perm otherPerm alike, isKeyed, otherIsKeyed =>
      savedAlike_mapping isKeyed otherIsKeyed perm otherPerm
        (savedAlike_of_alikeEntries alike
          (fun entry member =>
            isKeyed.values entry (perm.mem_iff.mpr member))
          fun other member =>
            otherIsKeyed.values other (otherPerm.mem_iff.mpr member))

theorem savedAlike_of_alikeList : ∀ {items others : List Value},
    AlikeList items others → (∀ item ∈ items, item.IsKeyed) →
    (∀ other ∈ others, other.IsKeyed) →
    List.Forall₂ SavedAlike items others
  | _, _, .nil, _, _ => .nil
  | _, _, .cons first rest, areKeyed, othersAreKeyed => by
      obtain ⟨here, later⟩ := List.forall_mem_cons.mp areKeyed
      obtain ⟨otherHere, otherLater⟩ := List.forall_mem_cons.mp othersAreKeyed
      exact .cons (savedAlike_of_alike first here otherHere)
        (savedAlike_of_alikeList rest later otherLater)

theorem savedAlike_of_alikeEntries : ∀ {entries others : List (Value × Value)},
    AlikeEntries entries others → (∀ entry ∈ entries, entry.2.IsKeyed) →
    (∀ other ∈ others, other.2.IsKeyed) →
    List.Forall₂ (fun entry other =>
      entry.1 = other.1 ∧ SavedAlike entry.2 other.2) entries others
  | _, _, .nil, _, _ => .nil
  | _, _, .cons first rest, areKeyed, othersAreKeyed => by
      obtain ⟨here, later⟩ := List.forall_mem_cons.mp areKeyed
      obtain ⟨otherHere, otherLater⟩ := List.forall_mem_cons.mp othersAreKeyed
      exact .cons ⟨rfl, savedAlike_of_alike first here otherHere⟩
        (savedAlike_of_alikeEntries rest later otherLater)

end

end Value

end PaneLayout
