import PaneLayout.Proofs.Json.Sorted
import PaneLayout.Proofs.Value.Displayed
import PaneLayout.Proofs.Value.Unpaired

/-!
# The bytes of canonical texts

A canonical text consists of the texts of its value, of numbers, and of marks and
escapes within ASCII.  So it holds a surrogate exactly if a text of the value
does, and otherwise it has bytes.
-/

namespace PaneLayout

namespace Json

open Shortest Value

/-! ### Characters and numbers -/

theorem hasSurrogate_float (x : Float) :
    hasSurrogate (floatLayout.text x) = false :=
  hasSurrogate_layout (by decide) (by decide) (by decide) x

theorem hasSurrogate_charText (c : Char) :
    hasSurrogate (charText false c) = isSurrogate c := by
  rw [hasSurrogate, charText_toList]
  by_cases escaped : c ∈ escapedChars
  · have table : (escapedChars.all fun c =>
        (charCode c).any isSurrogate == isSurrogate c) = true := by
      decide +kernel
    exact beq_iff_eq.mp (List.all_eq_true.mp table c escaped)
  · rw [charCode_plain escaped, List.any_cons, List.any_nil, Bool.or_false]

theorem hasSurrogate_stringText (text : String) :
    hasSurrogate (stringText false text) = hasSurrogate text := by
  rw [stringText, hasSurrogate_append, hasSurrogate_append, hasSurrogate_join,
    List.any_map]
  have quote : hasSurrogate "\"" = false := by decide
  rw [quote, Bool.false_or, Bool.or_false]
  exact congrArg (text.toList.any ·) (funext hasSurrogate_charText)

/-! ### Texts of values -/

theorem hasSurrogate_enclose (level : Nat) {opening closing : String}
    (plain : hasSurrogate opening = false)
    (plainClosing : hasSurrogate closing = false) (items : List String) :
    hasSurrogate (enclose .canonical level opening closing items) =
      items.any hasSurrogate := by
  have separator : hasSurrogate Style.canonical.itemSeparator = false := by
    decide
  cases items with
  | nil =>
      rw [enclose, hasSurrogate_append, plain, plainClosing]
      rfl
  | cons item items =>
      change hasSurrogate (opening ++
        Style.canonical.itemSeparator.intercalate (item :: items) ++
          closing) = _
      rw [hasSurrogate_append, hasSurrogate_append, plain, plainClosing,
        hasSurrogate_intercalate separator, Bool.false_or, Bool.or_false]

theorem hasSurrogate_memberText (member : String × String) :
    hasSurrogate (memberText .canonical member) =
      (hasSurrogate member.1 || hasSurrogate member.2) := by
  have separator : hasSurrogate Style.canonical.keySeparator = false := by
    decide
  change hasSurrogate (stringText false member.1 ++
    Style.canonical.keySeparator ++ member.2) = _
  rw [hasSurrogate_append, hasSurrogate_append, separator, Bool.or_false,
    hasSurrogate_stringText]

mutual

theorem hasSurrogate_textAt (level : Nat) : ∀ json : Json, ∀ text,
    json.textAt .canonical level = .ok text →
    hasSurrogate text = json.holdsSurrogate
  | .null => by
      intro _ ok
      cases ok
      rfl
  | .bool value => by
      intro _ ok
      cases ok
      cases value <;> rfl
  | .int n => by
      intro _ ok
      rw [textAt] at ok
      exact hasSurrogate_wholeText ok
  | .float x => by
      intro _ ok
      cases ok
      exact hasSurrogate_float x
  | .text content => by
      intro _ ok
      cases ok
      exact hasSurrogate_stringText content
  | .array items => by
      intro _ ok
      obtain ⟨texts, written, made⟩ := exists_of_bind_eq_ok ok
      cases made
      rw [hasSurrogate_enclose _ (by decide) (by decide), holdsSurrogate,
        any_textList (level + 1) items texts written]
  | .object members => by
      intro _ ok
      obtain ⟨texts, written, made⟩ := exists_of_bind_eq_ok ok
      cases made
      rw [hasSurrogate_enclose _ (by decide) (by decide), holdsSurrogate,
        ← any_textMembers (level + 1) members texts written, List.any_map]
      -- The order of the members does not matter.
      exact (arrange_perm texts).any_eq.trans
        (congrArg (texts.any ·) (funext hasSurrogate_memberText))

theorem any_textList (level : Nat) : ∀ items : List Json, ∀ texts,
    textList .canonical level items = .ok texts →
    texts.any hasSurrogate = holdsSurrogateList items
  | [] => by
      intro _ ok
      cases ok
      rfl
  | item :: items => by
      intro _ ok
      obtain ⟨text, written, ok⟩ := exists_of_bind_eq_ok ok
      obtain ⟨texts, writtenRest, made⟩ := exists_of_bind_eq_ok ok
      cases made
      rw [List.any_cons, hasSurrogate_textAt level item text written,
        any_textList level items texts writtenRest, holdsSurrogateList]

theorem any_textMembers (level : Nat) :
    ∀ members : List (String × Json), ∀ texts,
    textMembers .canonical level members = .ok texts →
    (texts.any fun member => hasSurrogate member.1 || hasSurrogate member.2) =
      holdsSurrogateMembers members
  | [] => by
      intro _ ok
      cases ok
      rfl
  | (key, item) :: members => by
      intro _ ok
      obtain ⟨text, written, ok⟩ := exists_of_bind_eq_ok ok
      obtain ⟨texts, writtenRest, made⟩ := exists_of_bind_eq_ok ok
      cases made
      rw [List.any_cons, hasSurrogate_textAt level item text written,
        any_textMembers level members texts writtenRest, holdsSurrogateMembers]

end

/-- A canonical text has bytes exactly if no text of the value holds a
surrogate. -/
theorem canonicalBytes_eq (json : Json) :
    json.canonicalBytes = json.render .canonical >>= encodeText := by
  unfold canonicalBytes
  cases rendered : json.render .canonical with
  | error cause => rfl
  | ok text =>
      have same := hasSurrogate_textAt 0 json text rendered
      change (if json.holdsSurrogate then _ else _) = encodeText text
      rw [encodeText, same]
      rfl

/-! ### Values without surrogates -/

mutual

theorem holdsSurrogate_eq_false_iff : ∀ json : Json,
    json.holdsSurrogate = false ↔ json.toValue.Everywhere IsEncodable
  | .null => iff_of_true rfl trivial
  | .bool _ => iff_of_true rfl trivial
  | .int _ => iff_of_true rfl trivial
  | .float _ => iff_of_true rfl trivial
  | .text _ => .rfl
  | .array items =>
      (holdsSurrogateList_eq_false_iff items).trans
        (and_iff_right trivial).symm
  | .object members =>
      (holdsSurrogateMembers_eq_false_iff members).trans
        (and_iff_right trivial).symm

theorem holdsSurrogateList_eq_false_iff : ∀ items : List Json,
    holdsSurrogateList items = false ↔
      EverywhereList IsEncodable (toValueList items)
  | [] => iff_of_true rfl trivial
  | item :: items => by
      rw [holdsSurrogateList, Bool.or_eq_false_iff,
        holdsSurrogate_eq_false_iff item,
        holdsSurrogateList_eq_false_iff items]
      rfl

theorem holdsSurrogateMembers_eq_false_iff :
    ∀ members : List (String × Json),
    holdsSurrogateMembers members = false ↔
      EverywhereEntries IsEncodable (toValueMembers members)
  | [] => iff_of_true rfl trivial
  | (key, item) :: members => by
      rw [holdsSurrogateMembers, Bool.or_eq_false_iff, Bool.or_eq_false_iff,
        holdsSurrogate_eq_false_iff item,
        holdsSurrogateMembers_eq_false_iff members, and_assoc]
      rfl

end

end Json

namespace Value

theorem encodable_object_iff {members : List (String × Json)} :
    (Json.object members).toValue.Everywhere IsEncodable ↔
      ∀ member ∈ members, hasSurrogate member.1 = false ∧
        member.2.toValue.Everywhere IsEncodable := by
  rw [Json.toValue, Json.toValueMembers_eq]
  refine (and_iff_right trivial).trans (everywhereEntries_iff.trans ?_)
  exact List.forall_mem_map

/-! ### Canonical forms -/

mutual

/-- A canonical form has no surrogates if the value has none. -/
theorem encodable_canonical : ∀ value : Value, ∀ json,
    value.Everywhere IsEncodable → value.canonical = .ok json →
    json.toValue.Everywhere IsEncodable
  | .null => by
      rintro _ _ ⟨⟩
      trivial
  | .bool _ => by
      rintro _ _ ⟨⟩
      trivial
  | .int _ => by
      rintro _ _ ⟨⟩
      trivial
  | .float _ => by
      rintro _ _ ⟨⟩
      trivial
  | .text _ => by
      rintro _ encodable ⟨⟩
      exact encodable
  | .bytes octets => by
      rintro _ _ ⟨⟩
      exact hasSurrogate_base64 octets
  | .date day => by
      rintro _ _ ⟨⟩
      exact hasSurrogate_date day
  | .timestamp moment => by
      rintro _ _ ⟨⟩
      exact hasSurrogate_textWith (by decide) hasSurrogate_offsetText moment
  | .list items => by
      intro _ encodable ok
      obtain ⟨jsons, converted, made⟩ := exists_of_bind_eq_ok ok
      cases made
      exact Json.everywhere_array trivial
        (encodable_canonicalList items jsons encodable.2 converted)
  | .tuple items => by
      intro _ encodable ok
      obtain ⟨jsons, converted, made⟩ := exists_of_bind_eq_ok ok
      cases made
      exact Json.everywhere_array trivial
        (encodable_canonicalList items jsons encodable.2 converted)
  | .set members => by
      intro _ encodable ok
      obtain ⟨jsons, converted, ok⟩ := exists_of_bind_eq_ok ok
      obtain ⟨sorted, inOrder, made⟩ := exists_of_bind_eq_ok ok
      cases made
      refine Json.everywhere_array trivial fun json member => ?_
      exact encodable_canonicalList members jsons encodable.2 converted json
        (Json.mem_of_sortMembers inOrder member)
  | .mapping entries => by
      intro _ encodable ok
      obtain ⟨members, converted, made⟩ := exists_of_bind_eq_ok ok
      cases made
      have areEncodable :=
        encodable_canonicalEntries entries members encodable.2 converted
      exact encodable_object_iff.mpr fun member isMember =>
        areEncodable member (Entries.mem_ofList isMember)

theorem encodable_canonicalList : ∀ items : List Value, ∀ jsons,
    EverywhereList IsEncodable items → canonicalList items = .ok jsons →
    ∀ json ∈ jsons, json.toValue.Everywhere IsEncodable
  | [] => by
      rintro _ _ ⟨⟩
      exact List.forall_mem_nil _
  | item :: items => by
      rintro _ ⟨first, rest⟩ ok
      obtain ⟨json, converted, ok⟩ := exists_of_bind_eq_ok ok
      obtain ⟨jsons, convertedRest, made⟩ := exists_of_bind_eq_ok ok
      cases made
      exact List.forall_mem_cons.mpr
        ⟨encodable_canonical item json first converted,
          encodable_canonicalList items jsons rest convertedRest⟩

theorem encodable_canonicalEntries : ∀ entries : List (Value × Value),
    ∀ members, EverywhereEntries IsEncodable entries →
    canonicalEntries entries = .ok members →
    ∀ member ∈ members, hasSurrogate member.1 = false ∧
      member.2.toValue.Everywhere IsEncodable
  | [] => by
      rintro _ _ ⟨⟩
      exact List.forall_mem_nil _
  | (key, value) :: entries => by
      rintro _ ⟨encodable, first, rest⟩ ok
      obtain ⟨name, named, ok⟩ := exists_of_bind_eq_ok ok
      obtain ⟨json, converted, ok⟩ := exists_of_bind_eq_ok ok
      obtain ⟨members, convertedRest, made⟩ := exists_of_bind_eq_ok ok
      cases made
      exact List.forall_mem_cons.mpr ⟨⟨hasSurrogate_keyText encodable named,
          encodable_canonical value json first converted⟩,
        encodable_canonicalEntries entries members rest convertedRest⟩

end

/-! ### Saved values -/

mutual

/-- Saving a value of the kinds that JSON has brings in no surrogate. -/
theorem encodable_saved : ∀ {value : Value} {json : Json},
    value.Everywhere IsJson → value.Everywhere IsEncodable →
    value.saved = .ok json → json.toValue.Everywhere IsEncodable
  | .null, _, _, _, rfl => trivial
  | .bool _, _, _, _, rfl => trivial
  | .int _, _, _, _, rfl => trivial
  | .float x, _, _, _, ok => by
      cases ok
      split <;> trivial
  | .text _, _, _, encodable, rfl => encodable
  | .list _, _, ⟨_, areJson⟩, ⟨_, inside⟩, ok => by
      obtain ⟨jsons, saved, made⟩ := exists_of_bind_eq_ok ok
      cases made
      exact Json.everywhere_array trivial
        (encodable_savedList areJson inside saved)
  | .mapping _, _, ⟨textKeys, areJson⟩, ⟨_, inside⟩, ok => by
      obtain ⟨members, saved, made⟩ := exists_of_bind_eq_ok ok
      cases made
      have areEncodable :=
        encodable_savedEntries textKeys areJson inside saved
      exact encodable_object_iff.mpr fun member isMember =>
        areEncodable member (Entries.mem_ofList isMember)

theorem encodable_savedList : ∀ {items : List Value} {jsons : List Json},
    EverywhereList IsJson items → EverywhereList IsEncodable items →
    savedList items = .ok jsons →
    ∀ json ∈ jsons, json.toValue.Everywhere IsEncodable
  | [], _, _, _, rfl => List.forall_mem_nil _
  | _ :: _, _, ⟨isJson, areJson⟩, ⟨first, rest⟩, ok => by
      obtain ⟨json, saved, ok⟩ := exists_of_bind_eq_ok ok
      obtain ⟨jsons, savedRest, made⟩ := exists_of_bind_eq_ok ok
      cases made
      exact List.forall_mem_cons.mpr ⟨encodable_saved isJson first saved,
        encodable_savedList areJson rest savedRest⟩

theorem encodable_savedEntries : ∀ {entries : List (Value × Value)}
    {members : Entries Json},
    (∀ entry ∈ entries, ∃ key, entry.1 = .text key) →
    EverywhereEntries IsJson entries → EverywhereEntries IsEncodable entries →
    savedEntries entries = .ok members →
    ∀ member ∈ members, hasSurrogate member.1 = false ∧
      member.2.toValue.Everywhere IsEncodable
  | [], _, _, _, _, rfl => List.forall_mem_nil _
  | (key, _) :: _, _, textKeys, ⟨_, isJson, areJson⟩, ⟨name, first, rest⟩,
      ok => by
      obtain ⟨⟨text, isText⟩, textKeysRest⟩ := List.forall_mem_cons.mp textKeys
      obtain ⟨saidName, named, ok⟩ := exists_of_bind_eq_ok ok
      obtain ⟨json, saved, ok⟩ := exists_of_bind_eq_ok ok
      obtain ⟨members, savedRest, made⟩ := exists_of_bind_eq_ok ok
      cases isText
      cases named
      cases made
      exact List.forall_mem_cons.mpr ⟨⟨name, encodable_saved isJson first saved⟩,
        encodable_savedEntries textKeysRest areJson rest savedRest⟩

end

/-- The value is saved as one without surrogates. -/
def IsSavedPlain (value : Value) : Prop :=
  ∃ json, value.saved = .ok json ∧ json.toValue.Everywhere IsEncodable

theorem IsSavedPlain.items {items : List Value}
    (plain : IsSavedPlain (.list items)) :
    ∀ item ∈ items, item.IsSavedPlain := by
  obtain ⟨_, ok, encodable⟩ := plain
  obtain ⟨jsons, saved, made⟩ := exists_of_bind_eq_ok ok
  cases made
  have inside := everywhereList_iff.mp encodable.2
  rw [Json.toValueList_eq, List.forall_mem_map] at inside
  have arePlain :
      List.Forall₂ (fun _ item => item.IsSavedPlain ∧ True) jsons items :=
    forall₂_of_holds (forall₂_of_savedList saved).flip inside
      fun json _ plain saved => ⟨⟨json, saved, plain⟩, trivial⟩
  exact ((List.forall₂_and_left _ _).mp arePlain.flip).1

theorem IsSavedPlain.fields {fields : Entries Value}
    (plain : IsSavedPlain (.record fields)) (unique : fields.keys.Nodup) :
    ∀ field ∈ fields, hasSurrogate field.1 = false ∧
      field.2.IsSavedPlain := by
  obtain ⟨_, ok, encodable⟩ := plain
  obtain ⟨members, saved, made⟩ := exists_of_bind_eq_ok ok
  cases made
  have pairs := pairs_of_savedEntries saved
  rw [Entries.keys_of_pairs pairs] at unique
  have inside := encodable.2
  rw [Entries.ofList_of_nodup unique, Json.toValueMembers_eq,
    everywhereEntries_iff, textEntries, List.forall_mem_map] at inside
  intro field isField
  obtain ⟨json, found, saved⟩ := Entries.exists_of_pairs pairs isField
  have both := inside _ found
  exact ⟨both.1, json, saved, both.2⟩

mutual

/-- What is saved without surrogates has none. -/
theorem IsSavedPlain.encodable : ∀ {value : Value}, value.IsKeyed →
    value.IsSavedPlain → value.Everywhere IsEncodable
  | .null, _, _ => trivial
  | .bool _, _, _ => trivial
  | .int _, _, _ => trivial
  | .float _, _, _ => trivial
  | .text _, _, ⟨_, rfl, plain⟩ => plain
  | .bytes _, _, _ => trivial
  | .date _, _, _ => trivial
  | .timestamp _, _, _ => trivial
  | .list _, isKeyed, plain =>
      ⟨trivial, encodable_list isKeyed.items plain.items⟩
  | .tuple _, isKeyed, _ => isKeyed.isJson.1.elim
  | .set _, isKeyed, _ => isKeyed.isJson.1.elim
  | .mapping _, isKeyed, plain => by
      obtain ⟨fields, rfl, unique⟩ := isKeyed.exists_record
      refine ⟨trivial, encodable_entries isKeyed.values ?_⟩
      exact List.forall_mem_map.mpr (plain.fields unique)

theorem encodable_list : ∀ {items : List Value},
    (∀ item ∈ items, item.IsKeyed) → (∀ item ∈ items, item.IsSavedPlain) →
    EverywhereList IsEncodable items
  | [], _, _ => trivial
  | item :: _, areKeyed, arePlain => by
      obtain ⟨isKeyed, areKeyed⟩ := List.forall_mem_cons.mp areKeyed
      obtain ⟨plain, arePlain⟩ := List.forall_mem_cons.mp arePlain
      exact ⟨plain.encodable isKeyed, encodable_list areKeyed arePlain⟩

theorem encodable_entries : ∀ {entries : List (Value × Value)},
    (∀ entry ∈ entries, entry.2.IsKeyed) →
    (∀ entry ∈ entries, entry.1.Everywhere IsEncodable ∧
      entry.2.IsSavedPlain) → EverywhereEntries IsEncodable entries
  | [], _, _ => trivial
  | (_, value) :: _, areKeyed, arePlain => by
      obtain ⟨isKeyed, areKeyed⟩ := List.forall_mem_cons.mp areKeyed
      obtain ⟨⟨key, plain⟩, arePlain⟩ := List.forall_mem_cons.mp arePlain
      exact ⟨key, plain.encodable isKeyed, encodable_entries areKeyed arePlain⟩

end

end Value

end PaneLayout
