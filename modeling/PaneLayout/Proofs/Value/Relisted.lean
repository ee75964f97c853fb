import Mathlib.Data.List.Forall2
import PaneLayout.Proofs.Value.Keys

/-!
# Sets listed in another order

The members of a set have no order, but a value lists them in some order.  Two
values list the same if they differ only in how the sets inside them are listed,
at whatever depth.  Lists and mappings keep their order.
-/

namespace PaneLayout.Value

mutual

/-- The values differ at most in the order in which sets are listed. -/
inductive Relisted : Value → Value → Prop where
  | refl (value : Value) : Relisted value value
  | list {items others : List Value} :
      RelistedList items others → Relisted (.list items) (.list others)
  | tuple {items others : List Value} :
      RelistedList items others → Relisted (.tuple items) (.tuple others)
  | set {members arranged others : List Value} :
      members.Perm arranged → RelistedList arranged others →
      Relisted (.set members) (.set others)
  | mapping {entries others : List (Value × Value)} :
      RelistedEntries entries others →
      Relisted (.mapping entries) (.mapping others)

inductive RelistedList : List Value → List Value → Prop where
  | nil : RelistedList [] []
  | cons {item other : Value} {items others : List Value} :
      Relisted item other → RelistedList items others →
      RelistedList (item :: items) (other :: others)

inductive RelistedEntries :
    List (Value × Value) → List (Value × Value) → Prop where
  | nil : RelistedEntries [] []
  | cons {key otherKey value other : Value}
      {entries others : List (Value × Value)} :
      Relisted key otherKey → Relisted value other →
      RelistedEntries entries others →
      RelistedEntries ((key, value) :: entries) ((otherKey, other) :: others)

end

/-! ### Keys and members -/

mutual

/-- A value that a set can have as a member, where sets are frozen. -/
def isFrozen : Value → Bool
  | .list _ => false
  | .mapping _ => false
  | .tuple items => isFrozenList items
  | .set members => isFrozenList members
  | _ => true

def isFrozenList : List Value → Bool
  | [] => true
  | item :: items => item.isFrozen && isFrozenList items

end

/-- Members of a set can be members, and surrogates do not make a pair in them.
Keys of a mapping can be keys. -/
def IsListable : Value → Prop
  | .set members =>
      isFrozenList members = true ∧ EverywhereList HasUnpairedText members
  | .mapping entries => ∀ entry ∈ entries, entry.1.isHashable = true
  | _ => True

/-- One key, with values that differ at most in the listing of sets. -/
def RelistedUnder (entry other : Value × Value) : Prop :=
  entry.1 = other.1 ∧ entry.2.Relisted other.2

theorem RelistedList.forall₂ {items others : List Value}
    (relisted : RelistedList items others) :
    List.Forall₂ Relisted items others := by
  induction items generalizing others with
  | nil =>
      cases relisted
      exact .nil
  | cons item items induction =>
      cases relisted with
      | cons first rest => exact .cons first (induction rest)

theorem RelistedEntries.forall₂ {entries others : List (Value × Value)}
    (relisted : RelistedEntries entries others) :
    List.Forall₂ (fun entry other =>
      entry.1.Relisted other.1 ∧ entry.2.Relisted other.2) entries others := by
  induction entries generalizing others with
  | nil =>
      cases relisted
      exact .nil
  | cons entry entries induction =>
      cases relisted with
      | cons key value rest => exact .cons ⟨key, value⟩ (induction rest)

mutual

/-- There is only one way to list a key. -/
theorem Relisted.eq_of_isHashable : ∀ {value other : Value},
    value.Relisted other → value.isHashable = true → value = other
  | _, _, .refl _, _ => rfl
  | _, _, .tuple relisted, isKey =>
      congrArg Value.tuple (relisted.eq_of_isHashable isKey)

theorem RelistedList.eq_of_isHashable : ∀ {items others : List Value},
    RelistedList items others → isHashableList items = true → items = others
  | _, _, .nil, _ => rfl
  | _, _, .cons first rest, areKeys => by
      obtain ⟨isKey, areKeysRest⟩ := (Bool.and_eq_true _ _).mp areKeys
      exact congrArg₂ List.cons (first.eq_of_isHashable isKey)
        (rest.eq_of_isHashable areKeysRest)

end

/-- Entries with keys that can be keys have the same keys in any listing. -/
theorem RelistedEntries.pairs {entries others : List (Value × Value)}
    (relisted : RelistedEntries entries others)
    (areKeys : ∀ entry ∈ entries, entry.1.isHashable = true) :
    List.Forall₂ RelistedUnder entries others := by
  have isKey := (List.forall₂_and_left _ _).mpr ⟨areKeys, relisted.forall₂⟩
  exact isKey.imp fun _ _ ⟨isKey, key, value⟩ =>
    ⟨key.eq_of_isHashable isKey, value⟩

/-! ### Fields -/

section Entries

variable {entries others : List (Value × Value)}
  (pairs : List.Forall₂ RelistedUnder entries others)

include pairs

theorem relisted_of_pairs :
    Relisted (.mapping entries) (.mapping others) := by
  refine .mapping ?_
  induction pairs with
  | nil => exact .nil
  | @cons entry other _ _ pair _ induction =>
      obtain ⟨name, value⟩ := entry
      obtain ⟨otherName, otherValue⟩ := other
      obtain ⟨same, relisted⟩ := pair
      cases same
      exact .cons (.refl name) relisted induction

theorem lookup_relisted (key : String) :
    Option.Rel Relisted (lookup entries key) (lookup others key) := by
  induction pairs with
  | nil => exact .none
  | @cons entry other _ _ pair _ induction =>
      obtain ⟨name, value⟩ := entry
      obtain ⟨otherName, otherValue⟩ := other
      obtain ⟨same, relisted⟩ := pair
      cases same
      rw [lookup_cons, lookup_cons]
      split
      · exact .some relisted
      · exact induction

end Entries

end PaneLayout.Value
