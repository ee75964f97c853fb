import PaneLayout.Proofs.Text.Surrogate
import PaneLayout.Value

/-!
# Properties of everything inside a value

A property holds everywhere in a value if it holds of the value, of the keys of
its mappings, and of everything that it contains.
-/

namespace PaneLayout.Value

mutual

/-- A property holds of a value and of everything inside it, keys included. -/
def Everywhere (property : Value → Prop) : Value → Prop
  | .list items => property (.list items) ∧ EverywhereList property items
  | .tuple items => property (.tuple items) ∧ EverywhereList property items
  | .set members => property (.set members) ∧ EverywhereList property members
  | .mapping entries =>
      property (.mapping entries) ∧ EverywhereEntries property entries
  | value => property value

def EverywhereList (property : Value → Prop) : List Value → Prop
  | [] => True
  | item :: items => item.Everywhere property ∧ EverywhereList property items

def EverywhereEntries (property : Value → Prop) :
    List (Value × Value) → Prop
  | [] => True
  | (key, value) :: entries =>
      key.Everywhere property ∧ value.Everywhere property ∧
        EverywhereEntries property entries

end

section

variable (property : Value → Prop) [DecidablePred property]

mutual

def decidableEverywhere :
    ∀ value : Value, Decidable (value.Everywhere property)
  | .list items =>
      have := decidableEverywhereList items
      inferInstanceAs (Decidable (_ ∧ _))
  | .tuple items =>
      have := decidableEverywhereList items
      inferInstanceAs (Decidable (_ ∧ _))
  | .set members =>
      have := decidableEverywhereList members
      inferInstanceAs (Decidable (_ ∧ _))
  | .mapping entries =>
      have := decidableEverywhereEntries entries
      inferInstanceAs (Decidable (_ ∧ _))
  | .null => inferInstanceAs (Decidable (property _))
  | .bool _ => inferInstanceAs (Decidable (property _))
  | .int _ => inferInstanceAs (Decidable (property _))
  | .float _ => inferInstanceAs (Decidable (property _))
  | .text _ => inferInstanceAs (Decidable (property _))
  | .bytes _ => inferInstanceAs (Decidable (property _))
  | .date _ => inferInstanceAs (Decidable (property _))
  | .timestamp _ => inferInstanceAs (Decidable (property _))

def decidableEverywhereList :
    ∀ items : List Value, Decidable (EverywhereList property items)
  | [] => inferInstanceAs (Decidable True)
  | item :: items =>
      have := decidableEverywhere item
      have := decidableEverywhereList items
      inferInstanceAs (Decidable (_ ∧ _))

def decidableEverywhereEntries :
    ∀ entries : List (Value × Value),
      Decidable (EverywhereEntries property entries)
  | [] => inferInstanceAs (Decidable True)
  | (key, value) :: entries =>
      have := decidableEverywhere key
      have := decidableEverywhere value
      have := decidableEverywhereEntries entries
      inferInstanceAs (Decidable (_ ∧ _ ∧ _))

end

instance (value : Value) : Decidable (value.Everywhere property) :=
  decidableEverywhere property value

end

variable {property : Value → Prop}

theorem Everywhere.here {value : Value} (holds : value.Everywhere property) :
    property value := by
  cases value <;> simp_all [Everywhere]

theorem everywhereList_iff {items : List Value} :
    EverywhereList property items ↔
      ∀ item ∈ items, item.Everywhere property := by
  induction items with
  | nil => simp [EverywhereList]
  | cons item items induction => simp [EverywhereList, induction]

theorem everywhereEntries_iff {entries : List (Value × Value)} :
    EverywhereEntries property entries ↔
      ∀ entry ∈ entries, entry.1.Everywhere property ∧
        entry.2.Everywhere property := by
  induction entries with
  | nil => simp [EverywhereEntries]
  | cons entry entries induction =>
      simp [EverywhereEntries, induction, and_assoc]

/-- What stands under a key of a mapping is inside it. -/
theorem Everywhere.of_lookup {entries : List (Value × Value)} {key : String}
    {value : Value} (holds : EverywhereEntries property entries)
    (found : lookup entries key = some value) : value.Everywhere property := by
  obtain ⟨entry, isEntry, rfl⟩ := Option.map_eq_some_iff.mp found
  exact (everywhereEntries_iff.mp holds entry
    (List.mem_of_find?_eq_some isEntry)).2

mutual

theorem Everywhere.mono {other : Value → Prop}
    (implies : ∀ value, property value → other value) :
    ∀ value : Value, value.Everywhere property → value.Everywhere other
  | .list items, ⟨here, inside⟩ =>
      ⟨implies _ here, monoList implies items inside⟩
  | .tuple items, ⟨here, inside⟩ =>
      ⟨implies _ here, monoList implies items inside⟩
  | .set members, ⟨here, inside⟩ =>
      ⟨implies _ here, monoList implies members inside⟩
  | .mapping entries, ⟨here, inside⟩ =>
      ⟨implies _ here, monoEntries implies entries inside⟩
  | .null, here => implies _ here
  | .bool _, here => implies _ here
  | .int _, here => implies _ here
  | .float _, here => implies _ here
  | .text _, here => implies _ here
  | .bytes _, here => implies _ here
  | .date _, here => implies _ here
  | .timestamp _, here => implies _ here

theorem Everywhere.monoList {other : Value → Prop}
    (implies : ∀ value, property value → other value) :
    ∀ items : List Value, EverywhereList property items →
      EverywhereList other items
  | [], _ => trivial
  | item :: items, ⟨first, rest⟩ =>
      ⟨mono implies item first, monoList implies items rest⟩

theorem Everywhere.monoEntries {other : Value → Prop}
    (implies : ∀ value, property value → other value) :
    ∀ entries : List (Value × Value), EverywhereEntries property entries →
      EverywhereEntries other entries
  | [], _ => trivial
  | (key, value) :: entries, ⟨first, second, rest⟩ =>
      ⟨mono implies key first, mono implies value second,
        monoEntries implies entries rest⟩

end

/-! ### Surrogates

A value can be encoded if no text in it holds a surrogate.  Its texts can be told
from each other within ASCII if no two surrogates make a pair.
-/

/-- If the value is a text, it holds no surrogate. -/
def IsEncodable : Value → Prop
  | .text content => hasSurrogate content = false
  | _ => True

instance : DecidablePred IsEncodable
  | .text _ => inferInstanceAs (Decidable (_ = _))
  | .null => .isTrue trivial
  | .bool _ => .isTrue trivial
  | .int _ => .isTrue trivial
  | .float _ => .isTrue trivial
  | .bytes _ => .isTrue trivial
  | .date _ => .isTrue trivial
  | .timestamp _ => .isTrue trivial
  | .list _ => .isTrue trivial
  | .tuple _ => .isTrue trivial
  | .set _ => .isTrue trivial
  | .mapping _ => .isTrue trivial

/-- If the value is a text, no two surrogates in it make a pair. -/
def HasUnpairedText : Value → Prop
  | .text content => IsUnpaired content.toList
  | _ => True

theorem IsEncodable.hasUnpairedText {value : Value}
    (encodable : value.IsEncodable) : value.HasUnpairedText := by
  cases value with
  | text content => exact isUnpaired_of_encodable encodable
  | _ => trivial

end PaneLayout.Value
