import PaneLayout.Config
import PaneLayout.Drawing.Table

/-!
# Listing the presets of a configuration

The listing has a row for every preset: its key, its name, and the window mode
in which it would be applied.
-/

namespace PaneLayout

/-- A preset in a listing. -/
structure ListedPreset where
  key : String
  /-- The name of the preset, if it is a text. -/
  name : String
  mode : WindowMode
deriving Repr, BEq, DecidableEq, Inhabited

namespace ListedPreset

/-- The row of a preset. -/
def ofEntries (defaults : Defaults) (key : String)
    (entries : List (Value × Value)) : Except Fault ListedPreset := do
  let mode ← resolveWindowMode none (.mapping entries) defaults
  let name := match Value.lookup entries "name" with
    | some (.text name) => name
    | _ => ""
  return ⟨key, name, mode⟩

/-- The cells of a row. -/
def cells (row : ListedPreset) : List String :=
  [row.key, row.name, row.mode.name]

end ListedPreset

namespace Config

/-- The rows of the listing, in the order of the presets. -/
def listing (config : Config) : Except Fault (List ListedPreset) :=
  config.presets.mapM fun (key, entries) =>
    ListedPreset.ofEntries config.defaults key entries

/-- The headers of the listing. -/
def listingHeaders : List String := ["Key", "Name", "Window mode"]

/-- The lines of the listing.  Keys and names are markup. -/
def listingLines (console : Drawing.Console) (rows : List ListedPreset) :
    Except Fault (List (List Char)) := do
  let headers ← listingHeaders.mapM console.shown
  let cells ← rows.mapM fun row => row.cells.mapM console.shown
  return console.table "Presets" headers cells

end Config

end PaneLayout
