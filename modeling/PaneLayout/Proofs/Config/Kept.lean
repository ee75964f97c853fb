import PaneLayout.Proofs.Config.Issues
import PaneLayout.Proofs.Config.Recovery

/-!
# What reading a configuration file keeps

If the step to every faulty preset leads back to its key, then reading a file
keeps all other presets and valid settings, and warns about everything that it
leaves out.  One faulty preset under any other key makes it lose all settings and
presets.
-/

namespace PaneLayout

/-- The warning is about a place in the file, or about a place inside it. -/
def ConfigWarning.IsAbout (warning : ConfigWarning) (place : List IssueStep) :
    Prop :=
  ∃ rest, warning.field =
    ".".intercalate ((place ++ rest).map IssueStep.text)

theorem ConfigWarning.exists_isAbout {issues : List Issue} {issue : Issue}
    (member : issue ∈ issues) {place rest : List IssueStep}
    (path : issue.path = place ++ rest) (file : String) :
    ∃ warning ∈ issues.map (ofIssue file), warning.IsAbout place :=
  ⟨_, List.mem_map.mpr ⟨issue, member, rfl⟩, rest, by rw [← path]; rfl⟩

namespace Config

open Value

/-- The step to every faulty preset leads back to its key.  Texts and whole
numbers of 64 bits are such keys. -/
def NamesFaults (rules : Rules) (entries : List (Value × Value)) : Prop :=
  ∀ presets, lookup entries "presets" = some (.mapping presets) →
    ∀ preset ∈ presets, rules.IsSound preset ∨ rules.NamesKey preset.1

/-- No two keys of presets are read as the same text. -/
def ReadsApart (rules : Rules) (entries : List (Value × Value)) : Prop :=
  ∀ presets, lookup entries "presets" = some (.mapping presets) →
    presets.Pairwise fun earlier later =>
      ∀ text, rules.text earlier.1 = some text → rules.text later.1 ≠ some text

theorem ReadsApart.eq_of_reads {rules : Rules} {entries : List (Value × Value)}
    (apart : ReadsApart rules entries) {presets : List (Value × Value)}
    (found : lookup entries "presets" = some (.mapping presets))
    {left right : Value × Value} (isLeft : left ∈ presets)
    (isRight : right ∈ presets) {text : String}
    (readsLeft : rules.text left.1 = some text)
    (readsRight : rules.text right.1 = some text) : left = right := by
  have symmetric : Std.Symm fun earlier later : Value × Value =>
      ∀ text, rules.text earlier.1 = some text →
        rules.text later.1 ≠ some text :=
    ⟨fun _ _ differ text second first => differ text first second⟩
  by_contra different
  exact (apart presets found).forall isLeft isRight different text readsLeft
    readsRight

/-- The configuration contains what is valid of a document, and warnings name
what it does not contain. -/
structure KeepsRest (rules : Rules) (entries : List (Value × Value))
    (config : Config) (warnings : List ConfigWarning) : Prop where
  /-- A preset whose keys are texts is there and unchanged. -/
  presets : ∀ presets, lookup entries "presets" = some (.mapping presets) →
    ∀ key preset, (.text key, .mapping preset) ∈ presets →
      (∀ entry ∈ preset, ∃ name, entry.1 = .text name) →
      config.presets.get? key = some preset
  /-- Valid settings are there. -/
  defaults : ∀ value defaults, lookup entries "defaults" = some value →
    rules.settings value = some defaults → config.defaults = defaults
  /-- A preset that is not there has a warning. -/
  presetsNamed : ∀ presets,
    lookup entries "presets" = some (.mapping presets) →
    ∀ preset ∈ presets,
      (∃ key ∈ config.keys, rules.text preset.1 = some key) ∨
      ∃ warning ∈ warnings,
        warning.IsAbout [.name "presets", rules.step preset.1]
  /-- Presets that are no mapping have a warning. -/
  sectionNamed : ∀ value, lookup entries "presets" = some value →
    (∃ presets, value = .mapping presets) ∨
    ∃ warning ∈ warnings, warning.IsAbout [.name "presets"]
  /-- Settings that are not valid have a warning. -/
  defaultsNamed : ∀ value, lookup entries "defaults" = some value →
    (∃ defaults, rules.settings value = some defaults) ∨
    ∃ warning ∈ warnings, warning.IsAbout [.name "defaults"]

/-! ### Recovered configurations -/

section Recovered

variable {rules : Rules} {entries : List (Value × Value)} {issues : List Issue}
  (report : rules.IsReport entries issues)
  (distinct : (Value.mapping entries).Everywhere HasDistinctKeys)

/-- Presets that a document holds have distinct keys. -/
theorem distinctKeys_of_lookup
    (distinct : (Value.mapping entries).Everywhere HasDistinctKeys)
    {key : String} {presets : List (Value × Value)}
    (found : lookup entries key = some (.mapping presets)) :
    DistinctKeys presets :=
  (Everywhere.of_lookup distinct.2 found).here

include report distinct

/-- One preset that no issue points at is enough to lose everything. -/
theorem config_without_of_not_namesFaults
    (unnamed : ¬ NamesFaults rules entries) :
    rules.config (issues.foldl withoutIssue entries) = none := by
  simp only [NamesFaults, not_forall, not_or] at unnamed
  obtain ⟨presets, found, preset, member, unsound, inexact⟩ := unnamed
  rw [← Option.not_isSome_iff_eq_none, Rules.config_without_isSome_iff report]
  exact fun sound => unsound (sound presets found preset
    (Rules.mem_kept_of_not_namesKey report found
      (distinctKeys_of_lookup distinct found) member inexact))

theorem exists_config_without (named : NamesFaults rules entries) :
    ∃ config, rules.config (issues.foldl withoutIssue entries) =
      some config := by
  refine Option.isSome_iff_exists.mp
    ((Rules.config_without_isSome_iff report).mpr
      fun presets found preset isKept => ?_)
  exact (Rules.mem_kept_iff_isSound report found
    (distinctKeys_of_lookup distinct found) (named presets found)
    (List.mem_filter.mp isKept).1).mp isKept

variable {config : Config}
  (read : rules.config (issues.foldl withoutIssue entries) = some config)
include read

omit distinct in
theorem defaults_of_config_without :
    config.defaults =
      (Rules.part rules.settings {} entries "defaults").getD {} := by
  rw [Rules.config_without report] at read
  obtain ⟨presets, _, rfl⟩ := Option.map_eq_some_iff.mp read
  rfl

omit distinct in
/-- The presets that are read are those that are kept. -/
theorem presets_of_config_without {presets : List (Value × Value)}
    (found : lookup entries "presets" = some (.mapping presets)) :
    config.presets = Entries.ofList
      ((kept issues presets).filterMap (rules.entry rules.preset)) := by
  have sound := (Rules.config_without_isSome_iff report).mp
    (Option.isSome_of_eq_some read) presets found
  rw [Rules.config_without report, Rules.presets_without report found,
    Rules.presets, Rules.entries_of_forall sound] at read
  exact congrArg Config.presets (Option.some.inj read).symm

/-- A preset that can be read is kept. -/
theorem get?_config_without (named : NamesFaults rules entries)
    (apart : ReadsApart rules entries) {presets : List (Value × Value)}
    (found : lookup entries "presets" = some (.mapping presets))
    {entry : Value × Value} (member : entry ∈ presets) {key : String}
    {preset : List (Value × Value)}
    (reads : rules.entry rules.preset entry = some (key, preset)) :
    config.presets.get? key = some preset := by
  have isKept : entry ∈ kept issues presets :=
    (Rules.mem_kept_iff_isSound report found
      (distinctKeys_of_lookup distinct found) (named presets found)
      member).mpr (Option.isSome_of_eq_some reads)
  rw [presets_of_config_without report read found]
  refine Entries.get?_ofList (List.mem_filterMap.mpr ⟨entry, isKept, reads⟩)
    fun other isOther => ?_
  obtain ⟨same, isSame, readsSame⟩ := List.mem_filterMap.mp isOther
  have isEntry : same = entry :=
    apart.eq_of_reads found (List.mem_filter.mp isSame).1 member
      (Rules.entry_eq_some_iff.mp readsSame).1
      (Rules.entry_eq_some_iff.mp reads).1
  rw [isEntry, reads] at readsSame
  cases readsSame
  rfl

theorem keepsRest_config_without (named : NamesFaults rules entries)
    (apart : ReadsApart rules entries) (file : String) :
    KeepsRest rules entries config
      (issues.map (ConfigWarning.ofIssue file)) where
  presets presets found key preset member textKeys := by
    have inside := (Everywhere.of_lookup distinct.2 found).2
    have distinctPreset : DistinctKeys preset :=
      (everywhereEntries_iff.mp inside _ member).2.here
    exact get?_config_without report distinct read named apart found member
      (Rules.entry_eq_some_iff.mpr ⟨rules.text_text key,
        Rules.preset_of_textKeys distinctPreset textKeys⟩)
  defaults value defaults found valid := by
    rw [defaults_of_config_without report read, Rules.part_of_lookup found,
      valid, Option.getD_some]
  presetsNamed presets found preset member := by
    by_cases sound : rules.IsSound preset
    · obtain ⟨⟨key, value⟩, reads⟩ := Option.isSome_iff_exists.mp sound
      refine .inl ⟨key, ?_, (Rules.entry_eq_some_iff.mp reads).1⟩
      exact Entries.mem_keys_iff.mpr ⟨value,
        get?_config_without report distinct read named apart found member
          reads⟩
    · obtain ⟨issue, isIssue, rest, path⟩ :=
        report.reported _ (.preset found member sound)
      exact .inr (ConfigWarning.exists_isAbout isIssue path file)
  sectionNamed value found := by
    by_cases isMapping : ∃ presets, value = .mapping presets
    · exact .inl isMapping
    · obtain ⟨issue, isIssue, rest, path⟩ := report.reported _
        (.presets found fun presets same => isMapping ⟨presets, same⟩)
      exact .inr (ConfigWarning.exists_isAbout isIssue path file)
  defaultsNamed value found := by
    cases valid : rules.settings value with
    | some defaults => exact .inl ⟨defaults, rfl⟩
    | none =>
        obtain ⟨issue, isIssue, rest, path⟩ :=
          report.reported _ (.settings found valid)
        exact .inr (ConfigWarning.exists_isAbout isIssue path file)

end Recovered

/-! ### Files -/

/-- Reading a file with a text comes to what its document comes to. -/
theorem load_of_text (reader : Reader) (file : String) {text : String}
    {octets : List UInt8} (decoded : decodeText octets = .ok text) :
    load reader file (.file octets) =
      match reader.document text with
      | .ok value => .ok (ofDocument reader.validate file value)
      | .error (.malformed reason) =>
          .ok ({}, [.ofFile file ("YAML parse error: " ++ reason) .null])
      | .error (.stopped cause) => .error cause := by
  have contents : (Location.file octets).read = .ok (.ok text) := by
    rw [Location.read, decoded]
    rfl
  simp only [load, contents, Location.isThere, bind, Except.bind]
  cases reader.document text with
  | ok value => rfl
  | error unread => cases unread <;> rfl

theorem load_of_mapping {reader : Reader} {file text : String}
    {octets : List UInt8} {entries : List (Value × Value)}
    (decoded : decodeText octets = .ok text)
    (read : reader.document text = .ok (.mapping entries)) :
    load reader file (.file octets) =
      .ok ((recover reader.validate entries).1,
        (recover reader.validate entries).2.map
          (ConfigWarning.ofIssue file)) := by
  rw [load_of_text reader file decoded, read]
  rfl

/-- Reading a file that holds a mapping has a result.  If the step to every
faulty preset leads back to its key, then the result contains all other presets
and valid settings, and warnings name what it does not contain; if the step to
some faulty preset does not, everything is lost. -/
theorem load_keeps_rest {reader : Reader} {rules : Rules}
    (obeys : reader.Obeys rules) (file : String) {text : String}
    {octets : List UInt8} {entries : List (Value × Value)}
    (decoded : decodeText octets = .ok text)
    (read : reader.document text = .ok (.mapping entries)) :
    ∃ config warnings,
      load reader file (.file octets) = .ok (config, warnings) ∧
      (NamesFaults rules entries → ReadsApart rules entries →
        KeepsRest rules entries config warnings) ∧
      (¬ NamesFaults rules entries → config = {}) := by
  have distinct := obeys.distinct read
  obtain ⟨issues, report, recovered⟩ := recover_eq obeys entries
  rw [load_of_mapping decoded read, recovered]
  refine ⟨_, _, rfl, fun named apart => ?_, fun unnamed => ?_⟩
  · obtain ⟨config, isConfig⟩ := exists_config_without report distinct named
    rw [isConfig]
    exact keepsRest_config_without report distinct isConfig named apart file
  · rw [config_without_of_not_namesFaults report distinct unnamed]
    rfl

theorem decodeText_toUTF8 (text : String) :
    decodeText text.toUTF8.data.toList = .ok text := by
  have decoded : String.fromUTF8? text.toUTF8 = some text := by
    unfold String.fromUTF8?
    exact dif_pos text.isValidUTF8
  unfold decodeText
  rw [Array.toArray_toList, decoded]

/-- The contents of a file with a preset of the key `good`, and another preset
of a key that is no text. -/
def twoPresets (key : Value) : List (Value × Value) :=
  [(.text "presets", .mapping [
    (.text "good", .mapping [(.text "name", .text "A")]),
    (key, .mapping [(.text "name", .text "B")])])]

/-- The document holds the two presets, the second under a key that passes a
test. -/
def holdsTwoPresets (isKey : Value → Bool) : Except Unread Value → Bool
  | .ok (.mapping [(.text "presets", .mapping [
      (.text "good", .mapping [(.text "name", .text "A")]),
      (key, .mapping [(.text "name", .text "B")])])]) => isKey key
  | _ => false

theorem eq_twoPresets {isKey : Value → Bool} {key : Value}
    (only : ∀ other, isKey other = true → other = key)
    {result : Except Unread Value}
    (holds : holdsTwoPresets isKey result = true) :
    result = .ok (.mapping (twoPresets key)) := by
  unfold holdsTwoPresets at holds
  split at holds
  · rw [only _ holds]
    rfl
  · cases holds

def isTwo : Value → Bool
  | .int 2 => true
  | _ => false

def isNull : Value → Bool
  | .null => true
  | _ => false

def numberedText : String :=
  "presets:\n  good:\n    name: A\n  2:\n    name: B\n"

theorem document_numberedText :
    Reader.standard.document numberedText =
      .ok (.mapping (twoPresets (.int 2))) := by
  have only : ∀ other, isTwo other = true → other = .int 2 := by
    intro other isKey
    unfold isTwo at isKey
    split at isKey
    · rfl
    · cases isKey
  exact eq_twoPresets only (by decide +kernel)

/-- A preset under a number is left out, and the one under a text stays. -/
theorem load_keeps_good :
    ∃ config warnings,
      load .standard "config.yaml" (.file numberedText.toUTF8.data.toList) =
        .ok (config, warnings) ∧
      KeepsRest .standard (twoPresets (.int 2)) config warnings ∧
      config.presets.get? "good" = some [(.text "name", .text "A")] := by
  have named : NamesFaults .standard (twoPresets (.int 2)) := by
    rintro presets found preset member
    cases found
    rcases List.mem_cons.mp member with rfl | last
    · left
      exact Option.isSome_of_eq_some (Rules.entry_eq_some_iff.mpr ⟨rfl, rfl⟩)
    · cases List.mem_singleton.mp last
      exact .inr (Rules.namesKey_int ⟨by decide, by decide⟩)
  have apart : ReadsApart .standard (twoPresets (.int 2)) := by
    rintro presets found
    cases found
    exact List.pairwise_pair.mpr fun _ _ => nofun
  obtain ⟨config, warnings, loaded, keeps, _⟩ :=
    load_keeps_rest standard_obeys "config.yaml" (decodeText_toUTF8 numberedText)
      document_numberedText
  have rest := keeps named apart
  exact ⟨config, warnings, loaded, rest,
    rest.presets _ rfl _ _ List.mem_cons_self (by simp)⟩

def nullText : String :=
  "presets:\n  good:\n    name: A\n  null:\n    name: B\n"

theorem document_nullText :
    Reader.standard.document nullText = .ok (.mapping (twoPresets .null)) := by
  have only : ∀ other, isNull other = true → other = .null := by
    intro other isKey
    unfold isNull at isKey
    split at isKey
    · rfl
    · cases isKey
  exact eq_twoPresets only (by decide +kernel)

/-- A preset under the key null makes reading lose the other one, which has no
issue. -/
theorem load_loses_good :
    ∃ config warnings,
      load .standard "config.yaml" (.file nullText.toUTF8.data.toList) =
        .ok (config, warnings) ∧
      ¬ KeepsRest .standard (twoPresets .null) config warnings := by
  have loaded : load .standard "config.yaml"
      (.file nullText.toUTF8.data.toList) = _ :=
    load_of_mapping (decodeText_toUTF8 nullText) document_nullText
  obtain ⟨issues, report, recovered⟩ :=
    recover_eq standard_obeys (twoPresets .null)
  have unnamed : ¬ NamesFaults .standard (twoPresets .null) := by
    intro named
    have ofLast := named _ rfl (.null, _)
      (List.mem_cons_of_mem _ (List.mem_singleton_self _))
    rcases ofLast with sound | named
    · cases sound
    · cases named
  refine ⟨_, _, loaded, fun keeps => ?_⟩
  have kept := keeps.presets _ rfl "good" _ List.mem_cons_self (by simp)
  rw [recovered, config_without_of_not_namesFaults report
    (standard_obeys.distinct document_nullText) unnamed] at kept
  cases kept

end Config

end PaneLayout
