import PaneLayout.Preset
import PaneLayout.Proofs.Json.Written
import PaneLayout.Proofs.Value.Everywhere

/-!
# Records

Records are made of texts, numbers, lists and mappings with text keys, which all
have a saved form.  It can be written unless a whole number has too many digits,
and it has bytes unless a text holds a surrogate.
-/

namespace PaneLayout

namespace Value

/-- What records are made of: the kinds of values that JSON has. -/
def IsJson : Value → Prop
  | .mapping entries => ∀ entry ∈ entries, ∃ key, entry.1 = .text key
  | .bytes _ => False
  | .date _ => False
  | .timestamp _ => False
  | .tuple _ => False
  | .set _ => False
  | _ => True

/-- A record all of whose numbers are short if one condition holds, and none of
whose texts has a surrogate if another one holds. -/
structure IsRecord (numbers texts : Prop) (value : Value) : Prop where
  isJson : value.Everywhere IsJson
  short : numbers → value.Everywhere HasShortNumbers
  encodable : texts → value.Everywhere IsEncodable

/-! ### Saved forms -/

mutual

theorem saved_ok : ∀ value : Value, value.Everywhere IsJson →
    ∃ json, value.saved = .ok json ∧
      (value.Everywhere HasShortNumbers → json.Writable)
  | .null, _ => ⟨_, rfl, fun _ => trivial⟩
  | .bool _, _ => ⟨_, rfl, fun _ => trivial⟩
  | .int _, _ => ⟨_, rfl, fun short => ⟨_, wholeText_of_short short⟩⟩
  | .float value, _ => by
      refine ⟨_, rfl, fun _ => ?_⟩
      split <;> trivial
  | .text _, _ => ⟨_, rfl, fun _ => trivial⟩
  | .list items, ⟨_, inside⟩ => by
      obtain ⟨jsons, saved, writable⟩ := savedList_ok items inside
      refine ⟨.array jsons, ?_, fun short => writable short.2⟩
      rw [Value.saved, saved]
      rfl
  | .mapping entries, ⟨textKeys, inside⟩ => by
      obtain ⟨members, saved, writable⟩ :=
        savedEntries_ok entries textKeys inside
      refine ⟨.object (Entries.ofList members), ?_, fun short => ?_⟩
      · rw [Value.saved, saved]
        rfl
      · exact Json.writableMembers_iff.mpr
          (Entries.forall_ofList (Json.writableMembers_iff.mp
            (writable short.2)))

theorem savedList_ok : ∀ items : List Value, EverywhereList IsJson items →
    ∃ jsons, savedList items = .ok jsons ∧
      (EverywhereList HasShortNumbers items → Json.WritableList jsons)
  | [], _ => ⟨[], rfl, fun _ => trivial⟩
  | item :: items, ⟨first, rest⟩ => by
      obtain ⟨json, saved, writable⟩ := saved_ok item first
      obtain ⟨jsons, savedRest, writableRest⟩ := savedList_ok items rest
      refine ⟨json :: jsons, ?_, fun short =>
        ⟨writable short.1, writableRest short.2⟩⟩
      rw [savedList, saved, savedRest]
      rfl

theorem savedEntries_ok : ∀ entries : List (Value × Value),
    (∀ entry ∈ entries, ∃ key, entry.1 = .text key) →
    EverywhereEntries IsJson entries →
    ∃ members, savedEntries entries = .ok members ∧
      (EverywhereEntries HasShortNumbers entries →
        Json.WritableMembers members)
  | [], _, _ => ⟨[], rfl, fun _ => trivial⟩
  | (key, value) :: entries, textKeys, ⟨_, second, rest⟩ => by
      obtain ⟨⟨name, isText⟩, textKeysRest⟩ := List.forall_mem_cons.mp textKeys
      obtain ⟨json, saved, writable⟩ := saved_ok value second
      obtain ⟨members, savedRest, writableRest⟩ :=
        savedEntries_ok entries textKeysRest rest
      refine ⟨(name, json) :: members, ?_, fun short =>
        ⟨writable short.2.1, writableRest short.2.2⟩⟩
      dsimp only at isText
      rw [savedEntries, isText, saved, savedRest]
      rfl

end

/-! ### Making records -/

section IsRecord

variable {numbers texts : Prop}

theorem isRecord_text {text : String}
    (plain : texts → hasSurrogate text = false) :
    IsRecord numbers texts (.text text) :=
  ⟨trivial, fun _ => trivial, plain⟩

theorem isRecord_ofText? {text : Option String}
    (plain : texts → ∀ content ∈ text, hasSurrogate content = false) :
    IsRecord numbers texts (.ofText? text) := by
  cases text with
  | none => exact ⟨trivial, fun _ => trivial, fun _ => trivial⟩
  | some content => exact isRecord_text fun holds => plain holds _ rfl

theorem isRecord_null : IsRecord numbers texts .null :=
  ⟨trivial, fun _ => trivial, fun _ => trivial⟩

theorem isRecord_bool (value : Bool) : IsRecord numbers texts (.bool value) :=
  ⟨trivial, fun _ => trivial, fun _ => trivial⟩

theorem isRecord_float (value : Float) :
    IsRecord numbers texts (.float value) :=
  ⟨trivial, fun _ => trivial, fun _ => trivial⟩

theorem isRecord_int {n : Int}
    (short : numbers → n.natAbs < Nat.pow 10 digitLimit) :
    IsRecord numbers texts (.int n) :=
  ⟨trivial, short, fun _ => trivial⟩

theorem isRecord_list {items : List Value}
    (inside : ∀ item ∈ items, IsRecord numbers texts item) :
    IsRecord numbers texts (.list items) where
  isJson := ⟨trivial, everywhereList_iff.mpr
    fun item member => (inside item member).isJson⟩
  short holds := ⟨trivial, everywhereList_iff.mpr
    fun item member => (inside item member).short holds⟩
  encodable holds := ⟨trivial, everywhereList_iff.mpr
    fun item member => (inside item member).encodable holds⟩

/-- A field of a record, with its key. -/
structure IsField (numbers texts : Prop) (field : String × Value) : Prop where
  key : texts → hasSurrogate field.1 = false
  value : IsRecord numbers texts field.2

theorem isRecord_record {fields : Entries Value}
    (inside : ∀ field ∈ fields, IsField numbers texts field) :
    IsRecord numbers texts (.record fields) where
  isJson := by
    refine ⟨List.forall_mem_map.mpr fun field _ => ⟨field.1, rfl⟩,
      everywhereEntries_iff.mpr (List.forall_mem_map.mpr
        fun field member => ⟨trivial, (inside field member).value.isJson⟩)⟩
  short holds := ⟨trivial, everywhereEntries_iff.mpr (List.forall_mem_map.mpr
    fun field member => ⟨trivial, (inside field member).value.short holds⟩)⟩
  encodable holds := ⟨trivial, everywhereEntries_iff.mpr
    (List.forall_mem_map.mpr fun field member =>
      ⟨(inside field member).key holds,
        (inside field member).value.encodable holds⟩)⟩

/-- A record whose keys are known. -/
theorem isRecord_named {fields : Entries Value}
    (keys : ∀ key ∈ fields.keys, hasSurrogate key = false)
    (inside : ∀ field ∈ fields, IsRecord numbers texts field.2) :
    IsRecord numbers texts (.record fields) :=
  isRecord_record fun field member =>
    ⟨fun _ => keys _ (List.mem_map_of_mem member), inside field member⟩

end IsRecord

end Value

/-! ### JSON values as records -/

namespace Json

open Value

mutual

theorem toValue_isJson : ∀ json : Json, json.toValue.Everywhere IsJson
  | .null => trivial
  | .bool _ => trivial
  | .int _ => trivial
  | .float _ => trivial
  | .text _ => trivial
  | .array items => ⟨trivial, toValueList_isJson items⟩
  | .object members => toValueMembers_isJson members

theorem toValueList_isJson :
    ∀ items : List Json, EverywhereList IsJson (toValueList items)
  | [] => trivial
  | item :: items => ⟨toValue_isJson item, toValueList_isJson items⟩

theorem toValueMembers_isJson : ∀ members : List (String × Json),
    (∀ entry ∈ toValueMembers members, ∃ key, entry.1 = .text key) ∧
      EverywhereEntries IsJson (toValueMembers members)
  | [] => ⟨List.forall_mem_nil _, trivial⟩
  | (key, item) :: members =>
      ⟨List.forall_mem_cons.mpr
          ⟨⟨key, rfl⟩, (toValueMembers_isJson members).1⟩,
        trivial, toValue_isJson item, (toValueMembers_isJson members).2⟩

end

theorem short_of_written {n : Int} {text : String}
    (written : wholeText n = .ok text) :
    n.natAbs < Nat.pow 10 digitLimit := by
  unfold wholeText at written
  split at written
  · assumption
  · cases written

mutual

theorem toValue_short : ∀ json : Json, json.Writable →
    json.toValue.Everywhere HasShortNumbers
  | .null, _ => trivial
  | .bool _, _ => trivial
  | .int _, ⟨_, written⟩ => short_of_written written
  | .float _, _ => trivial
  | .text _, _ => trivial
  | .array items, writable => ⟨trivial, toValueList_short items writable⟩
  | .object members, writable =>
      ⟨trivial, toValueMembers_short members writable⟩

theorem toValueList_short : ∀ items : List Json, WritableList items →
    EverywhereList HasShortNumbers (toValueList items)
  | [], _ => trivial
  | item :: items, ⟨first, rest⟩ =>
      ⟨toValue_short item first, toValueList_short items rest⟩

theorem toValueMembers_short : ∀ members : List (String × Json),
    WritableMembers members →
    EverywhereEntries HasShortNumbers (toValueMembers members)
  | [], _ => trivial
  | (_, item) :: members, ⟨first, rest⟩ =>
      ⟨trivial, toValue_short item first, toValueMembers_short members rest⟩

end

theorem toValue_isRecord {numbers texts : Prop} {json : Json}
    (writable : numbers → json.Writable)
    (encodable : texts → json.toValue.Everywhere IsEncodable) :
    IsRecord numbers texts json.toValue :=
  ⟨toValue_isJson json, fun holds => toValue_short json (writable holds),
    encodable⟩

end Json

end PaneLayout
