import Mathlib.Data.List.Forall2
import PaneLayout.Preset.Compile

/-!
# What the compiler reads of a field

Of a field the compiler reads a text, a flag, a delay, an entry of a ratio, or
items to go on with.  So it reads the same of two fields if they are equal, or
are both lists, both tuples, both sets, or both mappings.
-/

namespace PaneLayout

/-- The values are equal or of one kind, and lists have related items. -/
inductive Value.SameShape (related : Value → Value → Prop) :
    Value → Value → Prop where
  | same {value : Value} : (∀ items, value ≠ .list items) →
      SameShape related value value
  | list {items others : List Value} : List.Forall₂ related items others →
      SameShape related (.list items) (.list others)
  | tuple {items others : List Value} :
      SameShape related (.tuple items) (.tuple others)
  | set {members others : List Value} :
      SameShape related (.set members) (.set others)
  | mapping {entries others : List (Value × Value)} :
      SameShape related (.mapping entries) (.mapping others)

namespace Value.SameShape

variable {related : Value → Value → Prop} {value other : Value}
  (shape : SameShape related value other)

include shape

theorem text?_eq : value.text? = other.text? := by
  cases shape <;> rfl

theorem isTrue_eq : value.isTrue = other.isTrue := by
  cases shape <;> rfl

end Value.SameShape

/-- Related values have the same shape. -/
def Value.KeepsShape (related : Value → Value → Prop) : Prop :=
  ∀ {value other}, related value other → SameShape related value other

open Value

section Shape

variable {related : Value → Value → Prop} (keeps : KeepsShape related)

include keeps

theorem RatioEntry.parse_of_keeps {raw other : Value}
    (isRelated : related raw other) : parse raw = parse other := by
  cases keeps isRelated <;> rfl

namespace Compile

theorem delay_of_keeps {content other : Option Value}
    (there : Option.Rel related content other) :
    delay content = delay other := by
  cases there with
  | some isRelated => cases keeps isRelated <;> rfl
  | none => rfl

variable {entries others : List (Value × Value)}
  (fields : ∀ key, Option.Rel related (lookup entries key) (lookup others key))

include fields

/-- What depends on the shape alone is found under a key of either. -/
theorem map_lookup_of_keeps {α : Type} {look : Value → α}
    (same : ∀ {value other}, SameShape related value other →
      look value = look other) (key : String) :
    (lookup entries key).map look = (lookup others key).map look := by
  have there := fields key
  generalize lookup entries key = content at there
  generalize lookup others key = other at there
  cases there with
  | some isRelated => exact congrArg some (same (keeps isRelated))
  | none => rfl

theorem textField_of_keeps (key : String) :
    textField entries key = textField others key := by
  have same := congrArg (Option.bind · id)
    (map_lookup_of_keeps keeps fields SameShape.text?_eq key)
  rwa [Option.bind_map, Option.bind_map] at same

theorem flagField_of_keeps (key : String) :
    flagField entries key = flagField others key := by
  rw [flagField, flagField,
    map_lookup_of_keeps keeps fields SameShape.isTrue_eq]

theorem hasKey_of_keeps (key : String) :
    hasKey entries key = hasKey others key := by
  have same := congrArg Option.isSome
    (map_lookup_of_keeps keeps fields SameShape.text?_eq key)
  rwa [Option.isSome_map, Option.isSome_map] at same

theorem nodeKind_of_keeps : nodeKind entries = nodeKind others := by
  unfold nodeKind
  rw [hasKey_of_keeps keeps fields, textField_of_keeps keeps fields,
    textField_of_keeps keeps fields, textField_of_keeps keeps fields]

theorem itemsField_of_keeps (key : String) :
    Option.Rel (List.Forall₂ related) (itemsField entries key)
      (itemsField others key) := by
  unfold itemsField
  have there := fields key
  generalize lookup entries key = content at there
  generalize lookup others key = other at there
  cases there with
  | none => exact .none
  | @some value other isRelated =>
      cases keeps isRelated with
      | same plain =>
          cases value with
          | list items => exact absurd rfl (plain items)
          | _ => exact .none
      | list pairs =>
          cases pairs with
          | nil => exact .none
          | cons first rest => exact .some (.cons first rest)
      | tuple => exact .none
      | set => exact .none
      | mapping => exact .none

end Compile

end Shape

end PaneLayout
