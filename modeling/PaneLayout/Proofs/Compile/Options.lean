import PaneLayout.Proofs.Compile.Relisted
import PaneLayout.Proofs.Entries.Order

/-!
# What the options of a terminal hold

Options are kept in canonical form: they hold what JSON has, they are their own
canonical form, and they do not depend on how sets are listed, unless surrogates
make a pair in a member of a set.  An option is the last entry with its name that
no field uses.  Only if there is none, it is the last entry with its name among
the options that are spelled out.
-/

namespace PaneLayout

open Value

/-! ### Lookups -/

theorem Entries.get?_map {α β : Type} (change : α → β) (key : String)
    (entries : Entries α) :
    get? key (entries.map fun entry => (entry.1, change entry.2)) =
      (entries.get? key).map change := by
  induction entries with
  | nil => rfl
  | cons entry entries induction =>
      obtain ⟨name, value⟩ := entry
      by_cases same : name = key <;> simp [get?, same, induction]

/-- Items that are related to a list fall apart where the list does. -/
theorem exists_split_of_forall₂ {α β : Type} {related : α → β → Prop}
    {items : List α} {earlier later : List β} {other : β}
    (areRelated : List.Forall₂ related items (earlier ++ other :: later)) :
    ∃ before item after, items = before ++ item :: after ∧
      related item other ∧ List.Forall₂ related after later := by
  induction earlier generalizing items with
  | nil =>
      cases areRelated with
      | @cons item _ after _ first rest =>
          exact ⟨[], item, after, rfl, first, rest⟩
  | cons known earlier induction =>
      cases areRelated with
      | @cons first _ items _ _ rest =>
          obtain ⟨before, item, after, rfl, isRelated, laterRelated⟩ :=
            induction rest
          exact ⟨first :: before, item, after, rfl, isRelated, laterRelated⟩

theorem exists_of_forall₂ {α β : Type} {related : α → β → Prop}
    {items : List α} {others : List β}
    (areRelated : List.Forall₂ related items others) {item : α}
    (member : item ∈ items) : ∃ other ∈ others, related item other := by
  obtain ⟨before, after, rfl⟩ := List.append_of_mem member
  obtain ⟨earlier, other, later, rfl, isRelated, -⟩ :=
    exists_split_of_forall₂ areRelated.flip
  exact ⟨other, by simp, isRelated⟩

namespace Compile

/-- The last of the entries whose keys have a text. -/
def IsLastUnder (entries : List (Value × Value)) (name : String)
    (value : Value) : Prop :=
  ∃ earlier key later, entries = earlier ++ (key, value) :: later ∧
    key.keyText = .ok name ∧ ∀ entry ∈ later, entry.1.keyText ≠ .ok name

/-- An entry of a document and the member that it becomes. -/
def Becomes (entry : Value × Value) (member : String × Json) : Prop :=
  entry.1.keyText = .ok member.1 ∧ entry.2.canonical = .ok member.2

theorem becomes_of_canonicalEntries {entries : List (Value × Value)}
    {members : Entries Json} (ok : canonicalEntries entries = .ok members) :
    List.Forall₂ Becomes entries members := by
  induction entries generalizing members with
  | nil =>
      cases ok
      exact .nil
  | cons entry entries induction =>
      obtain ⟨name, named, ok⟩ := exists_of_bind_eq_ok ok
      obtain ⟨json, converted, ok⟩ := exists_of_bind_eq_ok ok
      obtain ⟨members, convertedRest, made⟩ := exists_of_bind_eq_ok ok
      cases made
      exact .cons ⟨named, converted⟩ (induction convertedRest)

section Canonical

variable {entries : List (Value × Value)} {json : Json}
  (ok : (Value.mapping entries).canonical = .ok json) {name : String}

include ok

/-- Of several entries under one name the last is found. -/
theorem get?_memberValues_iff {option : Value} :
    (memberValues json).get? name = some option ↔
      ∃ value stored, IsLastUnder entries name value ∧
        value.canonical = .ok stored ∧ stored.toValue = option := by
  obtain ⟨members, converted, made⟩ := exists_of_bind_eq_ok ok
  cases made
  have become := becomes_of_canonicalEntries converted
  change Entries.get? name ((Entries.ofList members).map
    fun member => (member.1, member.2.toValue)) = some option ↔ _
  rw [Entries.get?_map, Option.map_eq_some_iff]
  constructor
  · rintro ⟨stored, found, rfl⟩
    obtain ⟨earlier, later, rfl, isLast⟩ := Entries.exists_last_of_ofList found
    obtain ⟨before, ⟨key, value⟩, after, rfl, ⟨named, isStored⟩, become⟩ :=
      exists_split_of_forall₂ become
    refine ⟨value, stored, ⟨before, key, after, rfl, named, ?_⟩, isStored, rfl⟩
    intro entry isLater again
    obtain ⟨member, isMember, hasName, -⟩ := exists_of_forall₂ become isLater
    exact isLast member isMember (Except.ok.inj (hasName.symm.trans again))
  · rintro ⟨value, stored, ⟨earlier, key, later, rfl, named, isLast⟩,
      isStored, rfl⟩
    obtain ⟨before, ⟨other, json⟩, after, rfl, ⟨hasName, isJson⟩, become⟩ :=
      exists_split_of_forall₂ become.flip
    cases named.symm.trans hasName
    cases isStored.symm.trans isJson
    refine ⟨json, Entries.get?_ofList_last fun member isMember same => ?_, rfl⟩
    obtain ⟨entry, isLater, again, -⟩ := exists_of_forall₂ become isMember
    exact isLast entry isLater (same ▸ again)

theorem get?_memberValues_eq_none_iff :
    (memberValues json).get? name = none ↔
      ∀ entry ∈ entries, entry.1.keyText ≠ .ok name := by
  constructor
  · intro missing entry isEntry named
    obtain ⟨members, converted, made⟩ := exists_of_bind_eq_ok ok
    cases made
    obtain ⟨member, isMember, hasName, -⟩ :=
      exists_of_forall₂ (becomes_of_canonicalEntries converted) isEntry
    cases hasName.symm.trans named
    obtain ⟨stored, found⟩ := Entries.mem_keys_iff.mp
      (Entries.mem_keys_ofList.mpr (List.mem_map_of_mem isMember))
    change Entries.get? member.1 ((Entries.ofList members).map
      fun member => (member.1, member.2.toValue)) = none at missing
    rw [Entries.get?_map, found] at missing
    cases missing
  · intro noneNamed
    refine Option.eq_none_iff_forall_ne_some.mpr fun option found => ?_
    obtain ⟨value, _, ⟨earlier, key, later, rfl, named, -⟩, -⟩ :=
      (get?_memberValues_iff ok).mp found
    exact noneNamed (key, value) (by simp) named

end Canonical

/-- The entry of a document that an option is made of. -/
inductive IsOption (entries : List (Value × Value)) (name : String) :
    Value → Prop where
  | unused {value : Value} :
      IsLastUnder (unused entries) name value → IsOption entries name value
  | explicit {explicit : List (Value × Value)} {value : Value} :
      (∀ entry ∈ Compile.unused entries, entry.1.keyText ≠ .ok name) →
      lookup entries "options" = some (.mapping explicit) →
      IsLastUnder explicit name value → IsOption entries name value

theorem get?_explicitOptions_iff {entries : List (Value × Value)}
    {base : Entries Value} (ok : explicitOptions entries = .ok base)
    {name : String} {option : Value} :
    base.get? name = some option ↔
      ∃ explicit value stored,
        lookup entries "options" = some (.mapping explicit) ∧
        IsLastUnder explicit name value ∧ value.canonical = .ok stored ∧
        stored.toValue = option := by
  unfold explicitOptions at ok
  split at ok
  · next explicit found =>
    obtain ⟨json, converted, made⟩ := exists_of_bind_eq_ok ok
    cases made
    rw [get?_memberValues_iff converted]
    constructor
    · rintro ⟨value, stored, isOption⟩
      exact ⟨explicit, value, stored, found, isOption⟩
    · rintro ⟨other, value, stored, isFound, isOption⟩
      cases found.symm.trans isFound
      exact ⟨value, stored, isOption⟩
  · next missing =>
    cases ok
    constructor
    · intro found
      cases found
    · rintro ⟨explicit, value, stored, isFound, -⟩
      exact absurd isFound (missing explicit)

/-- An option is made of one entry of the document. -/
theorem get?_options_iff {entries : List (Value × Value)} {leaf : Terminal}
    (ok : terminal entries = .ok leaf) {name : String} {option : Value} :
    Entries.get? name (leaf.options.getD []) = some option ↔
      ∃ value stored, IsOption entries name value ∧
        value.canonical = .ok stored ∧ stored.toValue = option := by
  obtain ⟨env, _, ok⟩ := exists_of_bind_eq_ok ok
  obtain ⟨milliseconds, _, ok⟩ := exists_of_bind_eq_ok ok
  obtain ⟨fields, optionsOk, made⟩ := exists_of_bind_eq_ok ok
  cases made
  rw [options_eq] at optionsOk
  obtain ⟨json, converted, optionsOk⟩ := exists_of_bind_eq_ok optionsOk
  obtain ⟨base, baseOk, made⟩ := exists_of_bind_eq_ok optionsOk
  cases made
  have unique :=
    (memberValues_isKeyed (hasDistinctKeys_canonical converted)).unique
  have merged (merged : Entries Value) :
      (if merged.isEmpty then none else some merged).getD [] = merged := by
    cases merged <;> rfl
  rw [merged, Entries.get?_putAll unique, Option.or_eq_some_iff,
    get?_memberValues_iff converted, get?_memberValues_eq_none_iff converted,
    get?_explicitOptions_iff baseOk]
  constructor
  · rintro (⟨value, stored, isLast, isStored⟩ |
      ⟨noneNamed, explicit, value, stored, found, isLast, isStored⟩)
    · exact ⟨value, stored, .unused isLast, isStored⟩
    · exact ⟨value, stored, .explicit noneNamed found isLast, isStored⟩
  · rintro ⟨value, stored, isOption, isStored⟩
    cases isOption with
    | unused isLast => exact .inl ⟨value, stored, isLast, isStored⟩
    | explicit noneNamed found isLast =>
        exact .inr ⟨noneNamed, _, value, stored, found, isLast, isStored⟩

/-! ### Options of compiled presets -/

theorem isStored_record {fields : Entries Value} (isKeyed : fields.IsKeyed) :
    ∃ json : Json, json.toValue = .record fields ∧
      (Value.record fields).IsStored json := by
  apply exists_isStored
  · refine ⟨List.forall_mem_map.mpr fun field _ => ⟨field.1, rfl⟩,
      everywhereEntries_iff.mpr (List.forall_mem_map.mpr ?_)⟩
    exact fun field member => ⟨trivial, isKeyed.isJson field member⟩
  · refine ⟨(distinctKeys_iff Prod.snd).mpr isKeyed.unique,
      everywhereEntries_iff.mpr (List.forall_mem_map.mpr ?_)⟩
    exact fun field member => ⟨trivial, isKeyed.distinct field member⟩

/-- Options are stored in canonical form.  Every value whose numbers are short
has a form that only holds what JSON has and that is stored as it stands.  It is
the same for every listing of the sets inside the value, if keys can be keys and
members can be members, and if surrogates make no pairs in members.  So it is for
the options of every terminal of a compiled preset, and on the same condition
listing the sets of a preset in another way changes nothing in it.  An unused
entry of a terminal wins over an explicit option with its name, and of several
with one name the last wins. -/
theorem options_stored (value : Value) :
    (value.Everywhere HasShortNumbers → ∃ json, value.IsStored json) ∧
    (∀ source preset, Preset.ofValue source value = .ok preset →
      (∀ leaf ∈ preset.builtLayout.terminals, ∀ fields,
        leaf.options = some fields → ∃ json : Json,
          json.toValue = .record fields ∧
            (Value.record fields).IsStored json) ∧
      (value.Everywhere IsListable → ∀ other, value.Relisted other →
        Preset.ofValue source other = .ok preset)) ∧
    ∀ entries leaf, terminal entries = .ok leaf → ∀ name option,
      (leaf.options.getD []).get? name = some option ↔
        ∃ value stored, IsOption entries name value ∧
          value.canonical = .ok stored ∧ stored.toValue = option := by
  refine ⟨fun short => ?_,
    fun source preset ok => ⟨fun leaf isLeaf fields hasOptions => ?_,
      fun listable other relisted => ?_⟩,
    fun entries leaf ok name option => get?_options_iff ok⟩
  · obtain ⟨json, ok⟩ := (canonical_failsUnless value).exists_ok short
    exact ⟨json, isStored_of_canonical ok⟩
  · exact isStored_record
      ((Preset.builtLayout_isKeyed ok leaf isLeaf).options fields hasOptions)
  · exact Preset.ofValue_relisted relisted listable ok

/-- A terminal with a set and with bytes under a name that its explicit options
have too. -/
def tagged (tags : List Value) : List (Value × Value) :=
  [(.text "name", .text "shell"), (.text "tags", .set tags),
    (.text "blob", .bytes [255]),
    (.text "options", .mapping [(.text "blob", .text "old"), (.int 1, .null)])]

def taggedPreset (tags : List Value) : Value :=
  .mapping [(.text "layout", .mapping (tagged tags))]

theorem options_stored_tagged :
    (∃ json, (Value.set [.text "b", .text "a"]).IsStored json) ∧
    (∃ preset leaf fields json,
      Preset.ofValue "local" (taggedPreset [.text "b", .text "a"]) =
        .ok preset ∧
      Preset.ofValue "local" (taggedPreset [.text "a", .text "b"]) =
        .ok preset ∧
      leaf ∈ preset.builtLayout.terminals ∧ leaf.options = some fields ∧
      (Value.record fields).IsStored json) ∧
    ∃ leaf, terminal (tagged []) = .ok leaf ∧
      (leaf.options.getD []).get? "blob" = some (.text "/w==") ∧
      (leaf.options.getD []).get? "1" = some .null := by
  have stored := (options_stored (.set [.text "b", .text "a"])).1
  obtain ⟨_, compiled, merged⟩ :=
    options_stored (taggedPreset [.text "b", .text "a"])
  refine ⟨stored ⟨trivial, trivial, trivial, trivial⟩, ?_, ?_⟩
  · have evaluated : (Preset.ofValue "local"
        (taggedPreset [.text "b", .text "a"])).toOption.map
          (fun preset => preset.builtLayout.terminals.any
            fun leaf => leaf.options.isSome) = some true := by
      decide +kernel
    obtain ⟨preset, made, hasOptions⟩ := Option.map_eq_some_iff.mp evaluated
    have made := ok_of_toOption_eq_some made
    obtain ⟨leaf, isLeaf, hasOptions⟩ := List.any_eq_true.mp hasOptions
    obtain ⟨fields, isSome⟩ := Option.isSome_iff_exists.mp hasOptions
    obtain ⟨areStored, relisted⟩ := compiled _ _ made
    obtain ⟨json, -, isStored⟩ := areStored leaf isLeaf fields isSome
    have listable : (taggedPreset [.text "b", .text "a"]).Everywhere
        IsListable := by
      simp [taggedPreset, tagged, Everywhere, EverywhereEntries,
        EverywhereList, IsListable, HasUnpairedText, isHashable, isFrozen,
        isFrozenList]
      decide
    have tags : Relisted (.set [.text "b", .text "a"])
        (.set [.text "a", .text "b"]) :=
      .set (.swap _ _ []) (.cons (.refl _) (.cons (.refl _) .nil))
    have listings : (taggedPreset [.text "b", .text "a"]).Relisted
        (taggedPreset [.text "a", .text "b"]) :=
      .mapping (.cons (.refl _) (.mapping (.cons (.refl _) (.refl _)
        (.cons (.refl _) tags (.cons (.refl _) (.refl _)
          (.cons (.refl _) (.refl _) .nil))))) .nil)
    exact ⟨preset, leaf, fields, json, made, relisted listable _ listings,
      isLeaf, isSome, isStored⟩
  · have made : (terminal (tagged [])).toOption.isSome = true := by
      decide +kernel
    obtain ⟨leaf, made⟩ := Option.isSome_iff_exists.mp made
    have made := ok_of_toOption_eq_some made
    refine ⟨leaf, made, ?_, ?_⟩
    · refine (merged _ _ made _ _).mpr ⟨.bytes [255], .text "/w==", .unused ?_,
        rfl, rfl⟩
      exact ⟨[(.text "tags", .set [])], .text "blob", [], rfl, rfl,
        List.forall_mem_nil _⟩
    · refine (merged _ _ made _ _).mpr ⟨.null, .null,
        .explicit (by decide +kernel) rfl ?_, rfl, rfl⟩
      exact ⟨[(.text "blob", .text "old")], .int 1, [], rfl,
        by decide +kernel, List.forall_mem_nil _⟩

/-- Two surrogates that make a pair, which a document can only name one by
one. -/
def facePair : String :=
  String.ofList ([0xD83D, 0xDE00].filterMap ofCodePoint?)

/-- The character that the pair is the code of. -/
def face : String :=
  String.ofList ([0x1F600].filterMap ofCodePoint?)

/-- The first item of a list, if that is a text. -/
def firstText? : Json → Option String
  | .array (.text content :: _) => some content
  | _ => none

/-- Within ASCII the pair and the character have one text, so that the listing of
a set of both decides about its stored form. -/
theorem facePair_stored_twice :
    Relisted (.set [.text facePair, .text face])
      (.set [.text face, .text facePair]) ∧
    ∃ json other,
      Value.canonical (.set [.text facePair, .text face]) = .ok json ∧
      Value.canonical (.set [.text face, .text facePair]) = .ok other ∧
      json ≠ other := by
  have pairFirst : (Value.canonical
      (.set [.text facePair, .text face])).toOption.bind firstText? =
        some facePair := by
    decide +kernel
  have faceFirst : (Value.canonical
      (.set [.text face, .text facePair])).toOption.bind firstText? =
        some face := by
    decide +kernel
  have differ : facePair ≠ face := by decide +kernel
  obtain ⟨json, stored, isPair⟩ := Option.bind_eq_some_iff.mp pairFirst
  obtain ⟨other, otherStored, isFace⟩ := Option.bind_eq_some_iff.mp faceFirst
  refine ⟨.set (.swap _ _ []) (.cons (.refl _) (.cons (.refl _) .nil)), json,
    other, ok_of_toOption_eq_some stored, ok_of_toOption_eq_some otherStored, ?_⟩
  rintro rfl
  exact differ (Option.some.inj (isPair.symm.trans isFace))

end Compile

end PaneLayout
