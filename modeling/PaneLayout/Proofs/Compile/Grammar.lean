import PaneLayout.Preset.Compile
import PaneLayout.Proofs.Ratio.Entry
import PaneLayout.Proofs.Value.Everywhere

/-!
# The grammar of layouts

Which documents describe a layout, and which layout they describe, said without
the compiler.  What a terminal runs is taken over from its node; the tree, the
orientations and the entries of the ratios come from the document in order.
-/

namespace PaneLayout.Compile

open Value

mutual

/-- The layouts that a node describes. -/
inductive Describes : Value → Layout → Prop where
  | split {entries : List (Value × Value)} {orientation : Orientation}
      {panes raw : List Value} {ratio : Ratio} {layouts : List Layout} :
      lookup entries "type" = some (.text orientation.name) →
      lookup entries "panes" = some (.list panes) → panes ≠ [] →
      lookup entries "ratio" = some (.list raw) →
      raw.length = panes.length →
      List.Forall₂ RatioEntry.Denotes raw ratio →
      DescribesAll panes layouts →
      Describes (.mapping entries) (.split orientation ratio layouts)
  | terminal {entries : List (Value × Value)} {leaf : Terminal} :
      lookup entries "panes" = none →
      (textField entries "name").isSome ∨
        (textField entries "command").isSome →
      leaf.name = (textField entries "name").getD "" →
      leaf.command = textField entries "command" →
      Describes (.mapping entries) (.terminal leaf)

/-- The layouts that several nodes describe, one after the other. -/
inductive DescribesAll : List Value → List Layout → Prop where
  | nil : DescribesAll [] []
  | cons {node : Value} {nodes : List Value} {layout : Layout}
      {layouts : List Layout} :
      Describes node layout → DescribesAll nodes layouts →
      DescribesAll (node :: nodes) (layout :: layouts)

end

/-- The layout of a document, if it has one that is not null. -/
inductive DescribesDocument : Value → Option Layout → Prop where
  | absent {entries : List (Value × Value)} :
      lookup entries "layout" = none →
      DescribesDocument (.mapping entries) none
  | null {entries : List (Value × Value)} :
      lookup entries "layout" = some .null →
      DescribesDocument (.mapping entries) none
  | node {entries : List (Value × Value)} {node : Value} {layout : Layout} :
      lookup entries "layout" = some node → Describes node layout →
      DescribesDocument (.mapping entries) (some layout)

/-! ### Places -/

/-- A move into a mapping: to what stands under a key, or to an item of the
list that stands there. -/
inductive Move where
  | field (key : String)
  | item (key : String) (index : Nat)
deriving Repr, BEq, DecidableEq

namespace Move

def text : Move → String
  | .field key => "." ++ key
  | .item key index => "." ++ key ++ "[" ++ toString index ++ "]"

def follow : Move → Value → Option Value
  | .field key, .mapping entries => lookup entries key
  | .item key index, .mapping entries =>
      match lookup entries key with
      | some (.list items) => items[index]?
      | _ => none
  | _, _ => none

end Move

/-- A place in a document, as the moves that lead to it. -/
abbrev Place := List Move

namespace Place

/-- The path that names a place in messages. -/
def text (place : Place) : String :=
  place.foldl (fun text move => text ++ move.text) "preset"

def follow (document : Value) (place : Place) : Option Value :=
  place.foldl (fun found move => found.bind move.follow) (some document)

theorem text_concat (place : Place) (move : Move) :
    text (place ++ [move]) = place.text ++ move.text := by
  simp [text]

theorem follow_concat (document : Value) (place : Place) (move : Move) :
    follow document (place ++ [move]) =
      (place.follow document).bind move.follow := by
  simp [follow]

end Place

/-! ### Violations -/

abbrev Located := Place × Violation

/-- The violations of the entries of a ratio, from an index on. -/
def entryViolations (place : Place) : Nat → List Value → List Located
  | _, [] => []
  | index, raw :: rest =>
      (match RatioEntry.parse raw with
        | .ok (some _) => []
        | _ => [(place ++ [.item "ratio" index], .invalidRatioEntry raw)]) ++
      entryViolations place (index + 1) rest

/-- The violations of a split itself, in the order of its checks. -/
def ownViolations (place : Place) (typeName : String)
    (entries : List (Value × Value)) : List Located :=
  (match Orientation.ofName? typeName with
    | some _ => []
    | none => [(place ++ [.field "type"], .invalidOrientation typeName)]) ++
  (match itemsField entries "panes" with
    | some _ => []
    | none => [(place ++ [.field "panes"], .panesMissing)]) ++
  (match itemsField entries "ratio" with
    | some _ => []
    | none => [(place ++ [.field "ratio"], .ratioMissing)]) ++
  (match itemsField entries "panes", itemsField entries "ratio" with
    | some panes, some raw =>
        if raw.length = panes.length then
          []
        else
          [(place, .ratioMismatch raw.length panes.length)]
    | _, _ => []) ++
  entryViolations place 0 ((itemsField entries "ratio").getD [])

mutual

/-- All violations of a node in pre-order. -/
def nodeViolations (place : Place) : Value → List Located
  | .mapping entries =>
      match nodeKind entries with
      | .split typeName =>
          ownViolations place typeName entries ++ panesViolations place entries
      | .terminal => []
      | .neither => [(place, .invalidNode (.mapping entries))]
  | value => [(place, .invalidNode value)]

/-- The violations of the children under the key `panes`. -/
def panesViolations (place : Place) : List (Value × Value) → List Located
  | [] => []
  | (key, value) :: rest =>
      if key.isText "panes" then
        childrenViolations place value
      else
        panesViolations place rest

def childrenViolations (place : Place) : Value → List Located
  | .list items => nodesViolations place 0 items
  | _ => []

/-- The violations of children from an index on, from left to right. -/
def nodesViolations (place : Place) (index : Nat) : List Value → List Located
  | [] => []
  | item :: items =>
      nodeViolations (place ++ [.item "panes" index]) item ++
        nodesViolations place (index + 1) items

end

/-- All violations of a document in pre-order. -/
def violations : Value → List Located
  | .mapping entries =>
      match lookup entries "layout" with
      | none => []
      | some .null => []
      | some value => nodeViolations [.field "layout"] value
  | _ => [([], .notMapping)]

end PaneLayout.Compile
