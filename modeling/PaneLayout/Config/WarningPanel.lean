import PaneLayout.Config.Load
import PaneLayout.Drawing.Panel

/-!
# The panel of warnings

Warnings about configuration files are shown in a panel whose lower edge names
the files.  Each warning has a row with its place, its message and the value
found there.
-/

namespace PaneLayout

namespace ConfigWarning

/-- The text that shows the value of a warning. -/
def shownValue (warning : ConfigWarning) : Except Fault String :=
  match warning.value with
  | .null => .ok ""
  | value => value.display

/-- The files that warnings are about, each once. -/
def files (warnings : List ConfigWarning) : List String :=
  Entries.keys (Entries.ofList (warnings.map fun warning => (warning.file, ())))

/-- The lines of the panel on a terminal of a given width; there is none without
warnings. -/
def panel (width : Nat) (warnings : List ConfigWarning) :
    Except Fault (List String) := do
  if warnings.isEmpty then
    return []
  let values ← warnings.mapM shownValue
  let title ← Markup.shown "[yellow]Config Warnings[/]"
  let columns := [
    ← Drawing.Column.ofMarkup "Field" (warnings.map (·.field)) false,
    ← Drawing.Column.ofMarkup "Problem" (warnings.map (·.message)) true,
    ← Drawing.Column.ofMarkup "Value" values true]
  let subtitle ← Markup.shown (", ".intercalate (files warnings))
  return (Drawing.panel width title subtitle fun room =>
    Drawing.openTable room columns).map String.ofList

end ConfigWarning

end PaneLayout
