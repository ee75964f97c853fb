import PaneLayout.Config.Listing
import PaneLayout.Proofs.Fault

/-!
# Window modes of presets and the listing

The window mode is the one of the command line, else the one that the preset
names, else the one of the configuration, else a new window.  A preset names a
mode only by its text, and other values are ignored: all those that can be
looked up among the modes.  A list, a mapping, or a tuple that holds a list, a
set or a mapping cannot, and takes even the rows of all other presets away.
-/

namespace PaneLayout

/-! ### The mode of a preset -/

/-- A value with which nothing can be looked up.  A set can be looked up, though
it can be no member. -/
inductive Value.BreaksLookup : Value → Prop where
  | list (items : List Value) : BreaksLookup (.list items)
  | mapping (entries : List (Value × Value)) : BreaksLookup (.mapping entries)
  | tuple {items : List Value} :
      (∃ item ∈ items, item.isHashable = false) → BreaksLookup (.tuple items)

/-- The preset asks for a mode by its name. -/
def AsksFor (preset : Value) (mode : WindowMode) : Prop :=
  ∃ entries, preset = .mapping entries ∧
    Value.lookup entries "windowMode" = some (.text mode.name)

/-- The preset asks for a mode with a value that breaks the lookup. -/
def AsksInVain (preset : Value) : Prop :=
  ∃ entries value, preset = .mapping entries ∧
    Value.lookup entries "windowMode" = some value ∧ value.BreaksLookup

/-- The window mode that is used: the first one that somebody asked for. -/
inductive ChoosesMode (preset : Value) (defaults : Defaults) :
    Option WindowMode → WindowMode → Prop where
  | given (mode : WindowMode) : ChoosesMode preset defaults (some mode) mode
  | preset {mode : WindowMode} : AsksFor preset mode →
      ChoosesMode preset defaults none mode
  | default {mode : WindowMode} : (∀ other, ¬ AsksFor preset other) →
      defaults.windowMode = some mode → ChoosesMode preset defaults none mode
  | usual : (∀ other, ¬ AsksFor preset other) → defaults.windowMode = none →
      ChoosesMode preset defaults none .newWindow

theorem WindowMode.ofName?_eq_some_iff {name : String} {mode : WindowMode} :
    WindowMode.ofName? name = some mode ↔ name = mode.name := by
  constructor
  · intro isMode
    unfold WindowMode.ofName? at isMode
    split at isMode
    · cases isMode
      assumption
    · split at isMode
      · cases isMode
        assumption
      · cases isMode
  · rintro rfl
    cases mode <;> rfl

theorem WindowMode.name_injective {mode other : WindowMode}
    (same : mode.name = other.name) : mode = other := by
  have isOther := WindowMode.ofName?_eq_some_iff.mpr same
  exact Option.some.inj
    ((WindowMode.ofName?_eq_some_iff.mpr rfl).symm.trans isOther)

theorem AsksFor.unique {preset : Value} {mode other : WindowMode}
    (asks : AsksFor preset mode) (again : AsksFor preset other) :
    mode = other := by
  obtain ⟨entries, rfl, found⟩ := asks
  obtain ⟨_, ⟨⟩, foundAgain⟩ := again
  exact WindowMode.name_injective
    (Value.text.inj (Option.some.inj (found.symm.trans foundAgain)))

theorem AsksFor.not_inVain {preset : Value} {mode : WindowMode}
    (asks : AsksFor preset mode) : ¬ AsksInVain preset := by
  obtain ⟨entries, rfl, found⟩ := asks
  rintro ⟨_, value, ⟨⟩, foundAgain, breaks⟩
  cases found.symm.trans foundAgain
  cases breaks

theorem Value.isHashableList_eq_false_iff {items : List Value} :
    Value.isHashableList items = false ↔
      ∃ item ∈ items, item.isHashable = false := by
  induction items with
  | nil => simp [Value.isHashableList]
  | cons item items induction =>
      rw [Value.isHashableList, Bool.and_eq_false_iff, induction,
        List.exists_mem_cons_iff]

/-- Apart from sets, the values that break a lookup are those that can be no
member. -/
theorem Value.breaksLookup_iff {value : Value}
    (noSet : ∀ items, value ≠ .set items) :
    value.BreaksLookup ↔ value.isHashable = false := by
  constructor
  · intro breaks
    cases breaks with
    | list items => rfl
    | mapping entries => rfl
    | tuple holds => exact Value.isHashableList_eq_false_iff.mpr holds
  · intro unhashable
    cases value with
    | list items => exact .list items
    | mapping entries => exact .mapping entries
    | tuple items =>
        exact .tuple (Value.isHashableList_eq_false_iff.mp unhashable)
    | set items => exact absurd rfl (noSet items)
    | _ => cases unhashable

/-- What the lookup of a preset's mode answers. -/
inductive PresetMode (preset : Value) : Except Fault (Option WindowMode) → Prop
    where
  | named {mode : WindowMode} : AsksFor preset mode →
      PresetMode preset (.ok (some mode))
  | ignored : (∀ mode, ¬ AsksFor preset mode) → ¬ AsksInVain preset →
      PresetMode preset (.ok none)
  | broken : AsksInVain preset → PresetMode preset (.error .unhashableValue)

/-- Neither a name nor a value that breaks the lookup. -/
theorem PresetMode.of_value {entries : List (Value × Value)} {value : Value}
    (found : Value.lookup entries "windowMode" = some value)
    (noText : ∀ name, value ≠ .text name) (harmless : ¬ value.BreaksLookup) :
    PresetMode (.mapping entries) (.ok none) := by
  refine .ignored ?_ ?_
  · rintro mode ⟨_, ⟨⟩, foundAgain⟩
    exact noText _ (Option.some.inj (found.symm.trans foundAgain))
  · rintro ⟨_, other, ⟨⟩, foundAgain, breaks⟩
    cases found.symm.trans foundAgain
    exact harmless breaks

theorem presetMode_presetWindowMode (preset : Value) :
    PresetMode preset (presetWindowMode preset) := by
  unfold presetWindowMode
  split
  · next entries =>
    split
    · next absent =>
      refine .ignored ?_ ?_
      · rintro mode ⟨_, ⟨⟩, found⟩
        cases absent.symm.trans found
      · rintro ⟨_, value, ⟨⟩, found, -⟩
        cases absent.symm.trans found
    · next name found =>
      cases isMode : WindowMode.ofName? name with
      | some mode =>
          rw [WindowMode.ofName?_eq_some_iff.mp isMode] at found
          exact .named ⟨entries, rfl, found⟩
      | none =>
          refine .ignored ?_ ?_
          · rintro mode ⟨_, ⟨⟩, foundAgain⟩
            cases found.symm.trans foundAgain
            rw [WindowMode.ofName?_eq_some_iff.mpr rfl] at isMode
            cases isMode
          · rintro ⟨_, value, ⟨⟩, foundAgain, breaks⟩
            cases found.symm.trans foundAgain
            cases breaks
    · next items found =>
      refine .of_value found ?_ ?_
      · rintro _ ⟨⟩
      · intro breaks
        cases breaks
    · next value noText noSet found =>
      have breaks := Value.breaksLookup_iff fun items isSet => noSet items isSet
      split
      · next hashable =>
        refine .of_value found (fun name isText => noText name isText) ?_
        rw [breaks, hashable]
        exact Bool.noConfusion
      · next unhashable =>
        exact .broken ⟨entries, value, rfl, found,
          breaks.mpr (Bool.eq_false_iff.mpr unhashable)⟩
  · next noMapping =>
    refine .ignored ?_ ?_
    · rintro mode ⟨entries, rfl, -⟩
      exact noMapping entries rfl
    · rintro ⟨entries, value, rfl, -⟩
      exact noMapping entries rfl

/-! ### The mode that is used -/

theorem ChoosesMode.unique {given : Option WindowMode} {preset : Value}
    {defaults : Defaults} {mode other : WindowMode}
    (chooses : ChoosesMode preset defaults given mode)
    (again : ChoosesMode preset defaults given other) : mode = other := by
  cases chooses with
  | given => cases again; rfl
  | preset asks =>
      cases again with
      | preset asksAgain => exact asks.unique asksAgain
      | default nobody => exact absurd asks (nobody _)
      | usual nobody => exact absurd asks (nobody _)
  | default nobody isDefault =>
      cases again with
      | preset asks => exact absurd asks (nobody _)
      | default _ isAgain =>
          exact Option.some.inj (isDefault.symm.trans isAgain)
      | usual _ absent => cases isDefault.symm.trans absent
  | usual nobody absent =>
      cases again with
      | preset asks => exact absurd asks (nobody _)
      | default _ isDefault => cases absent.symm.trans isDefault
      | usual => rfl

/-- The resolution comes to the mode that is to be used, or it is stopped by the
value of the preset. -/
theorem resolves_or_breaks (given : Option WindowMode) (preset : Value)
    (defaults : Defaults) :
    (¬ (given = none ∧ AsksInVain preset) ∧
      ∃ mode, resolveWindowMode given preset defaults = .ok mode ∧
        ChoosesMode preset defaults given mode) ∨
    ((given = none ∧ AsksInVain preset) ∧
      resolveWindowMode given preset defaults = .error .unhashableValue) := by
  cases given with
  | some mode =>
      exact .inl ⟨(fun inVain => nomatch inVain.1), mode, rfl, .given mode⟩
  | none =>
      have asked := presetMode_presetWindowMode preset
      unfold resolveWindowMode
      dsimp only
      generalize presetWindowMode preset = answer at asked
      cases asked with
      | named asks =>
          exact .inl ⟨fun inVain => asks.not_inVain inVain.2, _, rfl,
            .preset asks⟩
      | ignored nobody notInVain =>
          refine .inl ⟨fun inVain => notInVain inVain.2, _, rfl, ?_⟩
          cases isDefault : defaults.windowMode with
          | some mode => exact .default nobody isDefault
          | none => exact .usual nobody isDefault
      | broken inVain => exact .inr ⟨⟨rfl, inVain⟩, rfl⟩

theorem resolveWindowMode_eq_ok_iff {given : Option WindowMode} {preset : Value}
    {defaults : Defaults} {mode : WindowMode} :
    resolveWindowMode given preset defaults = .ok mode ↔
      ChoosesMode preset defaults given mode ∧
        ¬ (given = none ∧ AsksInVain preset) := by
  rcases resolves_or_breaks given preset defaults with
    ⟨possible, chosen, resolved, chooses⟩ | ⟨inVain, failed⟩
  · rw [resolved]
    constructor
    · rintro ⟨⟩
      exact ⟨chooses, possible⟩
    · rintro ⟨other, -⟩
      rw [chooses.unique other]
  · rw [failed]
    exact ⟨(fun ok => nomatch ok), fun possible => absurd inVain possible.2⟩

theorem resolveWindowMode_eq_error_iff {given : Option WindowMode}
    {preset : Value} {defaults : Defaults} {cause : Fault} :
    resolveWindowMode given preset defaults = .error cause ↔
      cause = .unhashableValue ∧ given = none ∧ AsksInVain preset := by
  rcases resolves_or_breaks given preset defaults with
    ⟨possible, chosen, resolved, -⟩ | ⟨inVain, failed⟩
  · rw [resolved]
    exact ⟨(fun isError => nomatch isError),
      fun inVain => absurd inVain.2 possible⟩
  · rw [failed]
    constructor
    · rintro ⟨⟩
      exact ⟨rfl, inVain⟩
    · rintro ⟨rfl, -⟩
      rfl

/-! ### The listing -/

/-- The row of a preset. -/
structure ListedPreset.IsRowOf (defaults : Defaults)
    (preset : String × List (Value × Value)) (row : ListedPreset) : Prop where
  key : row.key = preset.1
  named : ∀ name, Value.lookup preset.2 "name" = some (.text name) →
    row.name = name
  unnamed : (∀ name, Value.lookup preset.2 "name" ≠ some (.text name)) →
    row.name = ""
  mode : ChoosesMode (.mapping preset.2) defaults none row.mode

namespace ListedPreset

theorem IsRowOf.unique {defaults : Defaults}
    {preset : String × List (Value × Value)} {row other : ListedPreset}
    (isRow : row.IsRowOf defaults preset)
    (again : other.IsRowOf defaults preset) : row = other := by
  have sameKey : row.key = other.key := isRow.key.trans again.key.symm
  have sameMode : row.mode = other.mode := isRow.mode.unique again.mode
  have sameName : row.name = other.name := by
    by_cases isNamed : ∃ name, Value.lookup preset.2 "name" = some (.text name)
    · obtain ⟨name, found⟩ := isNamed
      exact (isRow.named name found).trans (again.named name found).symm
    · have noName : ∀ name,
          Value.lookup preset.2 "name" ≠ some (.text name) :=
        fun name found => isNamed ⟨name, found⟩
      exact (isRow.unnamed noName).trans (again.unnamed noName).symm
  cases row
  cases other
  cases sameKey
  cases sameName
  cases sameMode
  rfl

/-- A preset has its row, or it stops the listing. -/
theorem row_or_breaks (defaults : Defaults)
    (preset : String × List (Value × Value)) :
    (¬ AsksInVain (.mapping preset.2) ∧
      ∃ row, ofEntries defaults preset.1 preset.2 = .ok row ∧
        row.IsRowOf defaults preset) ∨
    (AsksInVain (.mapping preset.2) ∧
      ofEntries defaults preset.1 preset.2 = .error .unhashableValue) := by
  rcases resolves_or_breaks none (.mapping preset.2) defaults with
    ⟨possible, mode, resolved, chooses⟩ | ⟨⟨-, inVain⟩, failed⟩
  · refine .inl ⟨fun inVain => possible ⟨rfl, inVain⟩, ?_⟩
    unfold ofEntries
    rw [resolved]
    refine ⟨_, rfl, rfl, fun name found => ?_, fun noName => ?_, chooses⟩
    · dsimp only
      rw [found]
    · dsimp only
      split
      · next name found => exact absurd found (noName name)
      · rfl
  · refine .inr ⟨inVain, ?_⟩
    unfold ofEntries
    rw [failed]
    rfl

theorem ofEntries_eq_ok_iff {defaults : Defaults}
    {preset : String × List (Value × Value)} {row : ListedPreset} :
    ofEntries defaults preset.1 preset.2 = .ok row ↔
      ¬ AsksInVain (.mapping preset.2) ∧ row.IsRowOf defaults preset := by
  rcases row_or_breaks defaults preset with
    ⟨possible, made, isMade, isRow⟩ | ⟨inVain, failed⟩
  · rw [isMade]
    constructor
    · rintro ⟨⟩
      exact ⟨possible, isRow⟩
    · rintro ⟨-, again⟩
      rw [isRow.unique again]
  · rw [failed]
    exact ⟨(fun ok => nomatch ok), fun possible => absurd inVain possible.1⟩

theorem ofEntries_eq_error {defaults : Defaults}
    {preset : String × List (Value × Value)} {cause : Fault}
    (failed : ofEntries defaults preset.1 preset.2 = .error cause) :
    cause = .unhashableValue ∧ AsksInVain (.mapping preset.2) := by
  rcases row_or_breaks defaults preset with
    ⟨-, made, isMade, -⟩ | ⟨inVain, isError⟩
  · cases isMade.symm.trans failed
  · cases isError.symm.trans failed
    exact ⟨rfl, inVain⟩

end ListedPreset

namespace Config

theorem listing_eq_ok_iff {config : Config} {rows : List ListedPreset} :
    config.listing = .ok rows ↔
      (∀ preset ∈ config.presets, ¬ AsksInVain (.mapping preset.2)) ∧
        List.Forall₂ (fun preset row => row.IsRowOf config.defaults preset)
          config.presets rows := by
  rw [← List.forall₂_and_left]
  constructor
  · intro listed
    exact (forall₂_of_mapM listed).imp fun _ _ made =>
      ListedPreset.ofEntries_eq_ok_iff.mp made
  · intro areRows
    exact mapM_of_forall₂ (areRows.imp fun _ _ isRow =>
      ListedPreset.ofEntries_eq_ok_iff.mpr isRow)

theorem listing_eq_error_iff {config : Config} {cause : Fault} :
    config.listing = .error cause ↔
      cause = .unhashableValue ∧
        ∃ preset ∈ config.presets, AsksInVain (.mapping preset.2) := by
  have onlyThen : ∀ {other}, config.listing = .error other →
      other = .unhashableValue ∧
        ∃ preset ∈ config.presets, AsksInVain (.mapping preset.2) := by
    intro other failed
    obtain ⟨preset, member, isError⟩ := exists_error_of_mapM failed
    obtain ⟨isCause, inVain⟩ := ListedPreset.ofEntries_eq_error isError
    exact ⟨isCause, preset, member, inVain⟩
  refine ⟨onlyThen, ?_⟩
  rintro ⟨rfl, preset, member, inVain⟩
  cases listed : config.listing with
  | ok rows =>
      exact absurd inVain ((listing_eq_ok_iff.mp listed).1 preset member)
  | error other => rw [(onlyThen listed).1]

end Config

end PaneLayout
