import PaneLayout.CommandLine.Program
import PaneLayout.Proofs.Config.Listing
import PaneLayout.Proofs.Drawing.Table

/-!
# The printed listing

Listing the presets of a configuration prints a table with the row of every
preset, in order, if no value breaks the lookup of a mode and the texts of the
rows are no markup.  Otherwise nothing is printed.
-/

namespace PaneLayout

/-- The console shows a text as it is, which is then no markup. -/
def Drawing.Console.IsPlain (console : Drawing.Console) (text : String) : Prop :=
  console.shown text = .ok text.toList

/-- The texts of a listing. -/
inductive Config.ListsText (config : Config) : String → Prop where
  | header {text : String} : text ∈ listingHeaders → config.ListsText text
  | mode (mode : WindowMode) : config.ListsText mode.name
  | unnamed : config.ListsText ""
  | key {preset : String × List (Value × Value)} :
      preset ∈ config.presets → config.ListsText preset.1
  | name {preset : String × List (Value × Value)} {name : String} :
      preset ∈ config.presets →
      Value.lookup preset.2 "name" = some (.text name) → config.ListsText name

/-! ### The table -/

theorem ListedPreset.IsRowOf.listsText {config : Config}
    {preset : String × List (Value × Value)} (member : preset ∈ config.presets)
    {row : ListedPreset} (isRow : row.IsRowOf config.defaults preset) :
    ∀ text ∈ row.cells, config.ListsText text := by
  have name : config.ListsText row.name := by
    by_cases isNamed : ∃ name, Value.lookup preset.2 "name" = some (.text name)
    · obtain ⟨name, found⟩ := isNamed
      rw [isRow.named name found]
      exact .name member found
    · rw [isRow.unnamed fun name found => isNamed ⟨name, found⟩]
      exact .unnamed
  simp only [cells, List.forall_mem_cons]
  exact ⟨isRow.key ▸ .key member, name, .mode _, List.forall_mem_nil _⟩

theorem mapM_shown {console : Drawing.Console} {texts : List String}
    (plain : ∀ text ∈ texts, console.IsPlain text) :
    texts.mapM console.shown = .ok (texts.map String.toList) :=
  mapM_of_forall₂ (List.forall₂_map_right_iff.mpr (List.forall₂_same.mpr plain))

namespace Config

theorem listingLines_eq {console : Drawing.Console} {rows : List ListedPreset}
    (headers : ∀ text ∈ listingHeaders, console.IsPlain text)
    (plain : ∀ row ∈ rows, ∀ text ∈ row.cells, console.IsPlain text) :
    listingLines console rows =
      .ok (console.table "Presets" (listingHeaders.map String.toList)
        (rows.map fun row => row.cells.map String.toList)) := by
  have cells : (rows.mapM fun row => row.cells.mapM console.shown) =
      .ok (rows.map fun row => row.cells.map String.toList) :=
    mapM_of_forall₂ (List.forall₂_map_right_iff.mpr
      (List.forall₂_same.mpr fun row member => mapM_shown (plain row member)))
  rw [listingLines, mapM_shown headers, cells]
  rfl

/-- Only a text that cannot be shown keeps a listing from being drawn. -/
theorem listingLines_eq_error {console : Drawing.Console}
    {rows : List ListedPreset} {cause : Fault}
    (failed : listingLines console rows = .error cause) :
    ∃ text, (text ∈ listingHeaders ∨ ∃ row ∈ rows, text ∈ row.cells) ∧
      console.shown text = .error cause := by
  unfold listingLines at failed
  cases headers : listingHeaders.mapM console.shown with
  | error other =>
      rw [headers] at failed
      cases failed
      obtain ⟨text, isHeader, isError⟩ := exists_error_of_mapM headers
      exact ⟨text, .inl isHeader, isError⟩
  | ok shown =>
      rw [headers] at failed
      cases cells : (rows.mapM fun row => row.cells.mapM console.shown) with
      | error other =>
          rw [cells] at failed
          cases failed
          obtain ⟨row, member, ofRow⟩ := exists_error_of_mapM cells
          obtain ⟨text, isCell, isError⟩ := exists_error_of_mapM ofRow
          exact ⟨text, .inr ⟨row, member, isCell⟩, isError⟩
      | ok others =>
          rw [cells] at failed
          cases failed

/-- The texts of rows are those of the listing. -/
theorem listsText_of_listing {config : Config} {rows : List ListedPreset}
    (listed : config.listing = .ok rows) :
    ∀ row ∈ rows, ∀ text ∈ row.cells, config.ListsText text := by
  intro row isRow
  obtain ⟨preset, member, ofPreset⟩ :=
    exists_of_mem_right (listing_eq_ok_iff.mp listed).2 isRow
  exact ofPreset.listsText member

end Config

/-! ### What is printed -/

theorem Job.run_write (text : String) :
    (Job.write text).run =
      if hasSurrogate text then (.crashed .unencodableText, {})
      else (.exited 0, { output := text }) := by
  unfold Job.write Job.writable encodeText
  cases hasSurrogate text with
  | true => rfl
  | false =>
      let written (output : String) : JobEnding × Transcript :=
        (.exited 0, { output })
      exact congrArg written String.empty_append

namespace Program

variable {console : Drawing.Console} {config : Config}

theorem run_listPresets_of_error (nonempty : config.presets ≠ []) {cause : Fault}
    (failed : config.listing = .error cause) :
    (listPresets console config).run = (.crashed cause, {}) := by
  rw [listPresets, List.isEmpty_eq_false_iff.mpr nonempty, failed]
  rfl

theorem run_listPresets_of_lines_error (nonempty : config.presets ≠ [])
    {rows : List ListedPreset} {cause : Fault}
    (listed : config.listing = .ok rows)
    (failed : Config.listingLines console rows = .error cause) :
    (listPresets console config).run = (.crashed cause, {}) := by
  rw [listPresets, List.isEmpty_eq_false_iff.mpr nonempty, listed]
  change (Job.ofFault (Config.listingLines console rows) >>= fun lines =>
    Job.write (Job.linesText lines)).run = _
  rw [failed]
  rfl

theorem listPresets_of_lines (nonempty : config.presets ≠ [])
    {rows : List ListedPreset} {lines : List (List Char)}
    (listed : config.listing = .ok rows)
    (drawn : Config.listingLines console rows = .ok lines) :
    listPresets console config = Job.write (Job.linesText lines) := by
  rw [listPresets, List.isEmpty_eq_false_iff.mpr nonempty, listed]
  change (Job.ofFault (Config.listingLines console rows) >>= fun lines =>
    Job.write (Job.linesText lines)) = _
  rw [drawn]
  rfl

/-- The text is the table of the rows.  Every row has lines of its own in it, in
order, which depend on its cells only. -/
structure ShowsRows (console : Drawing.Console) (rows : List ListedPreset)
    (text : String) : Prop where
  isTable : text = Job.linesText (console.table "Presets"
    (Config.listingHeaders.map String.toList)
    (rows.map fun row => row.cells.map String.toList))
  linesOf : ∃ above below, ∃ block : List (List Char) → List (List Char),
    (∀ cells, block cells ≠ []) ∧
    text = Job.linesText (above ++
      rows.flatMap (fun row => block (row.cells.map String.toList)) ++ below)

theorem run_listPresets_of_plain (draws : console.DrawsRows)
    (nonempty : config.presets ≠ [])
    (plain : ∀ text, config.ListsText text → console.IsPlain text)
    {rows : List ListedPreset} (listed : config.listing = .ok rows) :
    ∃ text, ShowsRows console rows text ∧
      (listPresets console config).run =
        if hasSurrogate text then (.crashed .unencodableText, {})
        else (.exited 0, { output := text }) := by
  have drawn := Config.listingLines_eq
    (fun text isHeader => plain text (.header isHeader))
    fun row member text isCell =>
      plain text (Config.listsText_of_listing listed row member text isCell)
  obtain ⟨above, below, block, nonemptyBlock, isTable⟩ := draws "Presets"
    (Config.listingHeaders.map String.toList)
    (rows.map fun row => row.cells.map String.toList) (by decide)
  refine ⟨_, ⟨rfl, above, below, block, nonemptyBlock, ?_⟩, ?_⟩
  · rw [isTable, List.flatMap_map]
  · rw [listPresets_of_lines nonempty listed drawn, Job.run_write]

/-- A listing that fails prints nothing. -/
theorem listPresets_crashed (nonempty : config.presets ≠ []) {cause : Fault}
    {transcript : Transcript}
    (crashed : (listPresets console config).run = (.crashed cause, transcript)) :
    transcript = {} ∧
      ((cause = .unhashableValue ∧
        ∃ listed ∈ config.presets, AsksInVain (.mapping listed.2)) ∨
      (∃ text, config.ListsText text ∧ console.shown text = .error cause) ∨
      cause = .unencodableText) := by
  cases listed : config.listing with
  | error other =>
      rw [run_listPresets_of_error nonempty listed] at crashed
      cases crashed
      exact ⟨rfl, .inl (Config.listing_eq_error_iff.mp listed)⟩
  | ok rows =>
      cases drawn : Config.listingLines console rows with
      | error other =>
          rw [run_listPresets_of_lines_error nonempty listed drawn] at crashed
          cases crashed
          obtain ⟨text, isText, failed⟩ := Config.listingLines_eq_error drawn
          refine ⟨rfl, .inr (.inl ⟨text, ?_, failed⟩)⟩
          rcases isText with isHeader | ⟨row, member, isCell⟩
          · exact .header isHeader
          · exact Config.listsText_of_listing listed row member text isCell
      | ok lines =>
          rw [listPresets_of_lines nonempty listed drawn, Job.run_write] at crashed
          split at crashed
          · cases crashed
            exact ⟨rfl, .inr (.inr rfl)⟩
          · cases crashed

/-- Every request for a window mode is answered by the first one that somebody
asked for, unless its value breaks the lookup of a mode.  Listing the presets of a
configuration prints the table with the rows of all presets in order.  It fails if some value
breaks the lookup, and else only if a text of the listing is markup that cannot
be shown, or cannot be written; then nothing is printed. -/
theorem modes_resolved_unless_broken (draws : console.DrawsRows)
    (given : Option WindowMode) (preset : Value) (defaults : Defaults)
    (config : Config) :
    (∀ mode, resolveWindowMode given preset defaults = .ok mode ↔
      ChoosesMode preset defaults given mode ∧
        ¬ (given = none ∧ AsksInVain preset)) ∧
    (∀ cause, resolveWindowMode given preset defaults = .error cause ↔
      cause = .unhashableValue ∧ given = none ∧ AsksInVain preset) ∧
    (config.presets ≠ [] →
      ((∃ listed ∈ config.presets, AsksInVain (.mapping listed.2)) →
        (listPresets console config).run = (.crashed .unhashableValue, {})) ∧
      ((∀ listed ∈ config.presets, ¬ AsksInVain (.mapping listed.2)) →
        (∀ text, config.ListsText text → console.IsPlain text) →
        ∃ rows text,
          List.Forall₂ (fun listed row => row.IsRowOf config.defaults listed)
            config.presets rows ∧
          ShowsRows console rows text ∧
          (listPresets console config).run =
            if hasSurrogate text then (.crashed .unencodableText, {})
            else (.exited 0, { output := text })) ∧
      ∀ cause transcript,
        (listPresets console config).run = (.crashed cause, transcript) →
        transcript = {} ∧
          ((cause = .unhashableValue ∧
            ∃ listed ∈ config.presets, AsksInVain (.mapping listed.2)) ∨
          (∃ text, config.ListsText text ∧ console.shown text = .error cause) ∨
          cause = .unencodableText)) := by
  refine ⟨fun _ => resolveWindowMode_eq_ok_iff,
    fun _ => resolveWindowMode_eq_error_iff, fun nonempty =>
      ⟨fun inVain => ?_, fun possible plain => ?_,
        fun _ _ => listPresets_crashed nonempty⟩⟩
  · exact run_listPresets_of_error nonempty
      (Config.listing_eq_error_iff.mpr ⟨rfl, inVain⟩)
  · cases listed : config.listing with
    | error cause =>
        obtain ⟨_, preset, member, inVain⟩ :=
          Config.listing_eq_error_iff.mp listed
        exact absurd inVain (possible preset member)
    | ok rows =>
        obtain ⟨text, holds, run⟩ :=
          run_listPresets_of_plain draws nonempty plain listed
        exact ⟨rows, text, (Config.listing_eq_ok_iff.mp listed).2, holds, run⟩

/-- A configuration with two presets, of which one has no name. -/
def twoPresets : Config where
  presets := [("dev", [(.text "name", .text "Work")]),
    ("ops", [(.text "windowMode", .text "current-window")])]

theorem isPlain_twoPresets {text : String} (isText : twoPresets.ListsText text) :
    (Drawing.Console.ofWidth Job.terminalWidth).IsPlain text := by
  have table : ∀ text ∈ ["Key", "Name", "Window mode", "", "dev", "ops", "Work",
      "new-window", "current-window"], Markup.shown text = .ok text.toList := by
    decide +kernel
  refine table text ?_
  cases isText with
  | header isHeader => exact List.mem_append_left _ isHeader
  | mode mode => cases mode <;> decide
  | unnamed => decide
  | key member =>
      rcases List.mem_pair.mp member with rfl | rfl <;> decide
  | name member found =>
      rcases List.mem_pair.mp member with rfl | rfl
      · cases found
        decide
      · cases found

/-- Both presets are printed, the second for the current window. -/
theorem listPresets_twoPresets :
    ∃ rows text,
      List.Forall₂ (fun listed row => row.IsRowOf {} listed)
        twoPresets.presets rows ∧
      ShowsRows (.ofWidth Job.terminalWidth) rows text ∧
      (listPresets (.ofWidth Job.terminalWidth) twoPresets).run =
        if hasSurrogate text then (.crashed .unencodableText, {})
        else (.exited 0, { output := text }) := by
  have listed : twoPresets.listing =
      .ok [⟨"dev", "Work", .newWindow⟩, ⟨"ops", "", .currentWindow⟩] := by
    decide
  obtain ⟨_, _, listing⟩ := modes_resolved_unless_broken
    (Drawing.ofWidth_drawsRows Job.terminalWidth) none .null {} twoPresets
  exact (listing (by decide)).2.1 (Config.listing_eq_ok_iff.mp listed).1
    fun _ => isPlain_twoPresets

/-- A list is no mode, and yet it is not ignored. -/
theorem mode_not_resolved_of_list :
    ChoosesMode (.mapping [(.text "windowMode", .list [.text "x"])]) {} none
        .newWindow ∧
      resolveWindowMode none
        (.mapping [(.text "windowMode", .list [.text "x"])]) {} =
        .error .unhashableValue := by
  refine ⟨.usual ?_ rfl, by decide⟩
  rintro mode ⟨_, ⟨⟩, found⟩
  cases found

/-- A key that closes a tag takes the rows of all presets away. -/
example :
    (listPresets (.ofWidth Job.terminalWidth) ⟨{}, [("good", []),
      ("[/x]", [])]⟩).run = (.crashed .unopenedTag, {}) := by
  decide +kernel

end Program

end PaneLayout
