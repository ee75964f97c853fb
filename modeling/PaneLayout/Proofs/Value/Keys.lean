import Mathlib.Data.List.Pairwise
import PaneLayout.Proofs.Value.Everywhere

/-!
# Keys of mappings

A mapping that is made entry by entry has no two keys that agree.  A text agrees
with itself only, and a whole number with what is numerically equal to it.
Lookups see the last value that was put under a text.
-/

namespace PaneLayout.Value

/-! ### When keys agree -/

theorem agrees_text (text : String) (value : Value) :
    agrees (.text text) value = value.isText text := by
  cases value with
  | text other =>
      simp only [agrees, agreesScalar, numeric?, isText]
      exact Bool.beq_comm
  | float value =>
      cases whole : Binary64.whole? value <;>
        simp [agrees, agreesScalar, numeric?, isText, whole]
  | _ => simp [agrees, agreesScalar, numeric?, isText]

theorem agrees_of_isNumeric {left : Value} (numeric : left.numeric?.isSome)
    (right : Value) : agrees left right = agreesScalar left right := by
  cases left with
  | bool value => simp [agrees]
  | int value => simp [agrees]
  | float value => simp [agrees]
  | _ => cases numeric

theorem agrees_int_iff {value : Value} {number : Int} :
    agrees value (.int number) = true ↔
      value.numeric? = some (.inl number) := by
  cases value with
  | float value =>
      rw [agrees_of_isNumeric (by simp only [numeric?]; split <;> rfl)]
      cases whole : Binary64.whole? value <;>
        simp [agreesScalar, numeric?, whole]
  | _ => simp [agrees, agreesScalar, numeric?]

theorem agrees_of_numeric {left right : Value} {number : Int}
    (isLeft : left.numeric? = some (.inl number))
    (isRight : right.numeric? = some (.inl number)) :
    agrees left right = true := by
  rw [agrees_of_isNumeric (by rw [isLeft]; rfl)]
  simp [agreesScalar, isLeft, isRight]

/-! ### Lookups -/

theorem isText_iff {value : Value} {text : String} :
    value.isText text = true ↔ value = .text text := by
  cases value <;> simp [isText]

theorem lookup_cons {entry : Value × Value} {entries : List (Value × Value)}
    {key : String} :
    lookup (entry :: entries) key =
      if entry.1.isText key then some entry.2 else lookup entries key := by
  unfold lookup
  by_cases here : entry.1.isText key = true <;> simp [here]

theorem lookup_without {entries : List (Value × Value)} {key other : String} :
    lookup (entries.filter fun entry => !entry.1.isText key) other =
      if key = other then none else lookup entries other := by
  induction entries with
  | nil => simp [lookup]
  | cons entry entries induction =>
      rw [lookup_cons]
      by_cases isKey : entry.1.isText key = true
      · rw [List.filter_cons_of_neg (by simp [isKey]), induction,
          isText_iff.mp isKey]
        by_cases same : key = other <;> simp [isText, same]
      · rw [List.filter_cons_of_pos (by simp [isKey]), lookup_cons, induction]
        by_cases same : key = other
        · simp [← same, isKey]
        · simp [same]

theorem lookup_putEntry {entries : List (Value × Value)} {key other : String}
    {value : Value} :
    lookup (putEntry (.text key) value entries) other =
      if key = other then some value else lookup entries other := by
  induction entries with
  | nil =>
      rw [putEntry, lookup_cons]
      by_cases same : key = other <;> simp [isText, same]
  | cons entry entries induction =>
      obtain ⟨known, old⟩ := entry
      rw [putEntry, agrees_text, lookup_cons]
      by_cases isKey : known.isText key = true
      · rw [if_pos isKey, lookup_cons, isText_iff.mp isKey]
        by_cases same : key = other <;> simp [isText, same]
      · rw [if_neg isKey, lookup_cons, induction]
        by_cases same : key = other
        · simp [← same, isKey]
        · simp [same]

/-! ### Distinct keys -/

/-- No key agrees with an earlier one. -/
def DistinctKeys (entries : List (Value × Value)) : Prop :=
  entries.Pairwise fun earlier later => agrees later.1 earlier.1 = false

/-- The keys of a mapping are distinct. -/
def HasDistinctKeys : Value → Prop
  | .mapping entries => DistinctKeys entries
  | _ => True

/-- Entries whose keys agree are one entry. -/
theorem DistinctKeys.eq_of_agrees {entries : List (Value × Value)}
    (distinct : DistinctKeys entries) {left right : Value × Value}
    (isLeft : left ∈ entries) (isRight : right ∈ entries)
    (forth : left.1.agrees right.1 = true)
    (back : right.1.agrees left.1 = true) : left = right := by
  let apart : Value × Value → Value × Value → Prop := fun left right =>
    ¬ (left.1.agrees right.1 = true ∧ right.1.agrees left.1 = true)
  have symmetric : Std.Symm apart := ⟨fun _ _ differ agree => differ agree.symm⟩
  have allApart : entries.Pairwise apart :=
    distinct.imp fun differ agree => by simp [differ] at agree
  by_contra different
  exact allApart.forall isLeft isRight different ⟨forth, back⟩

theorem mem_putEntry {key value : Value} {entries : List (Value × Value)}
    {entry : Value × Value} (member : entry ∈ putEntry key value entries) :
    entry ∈ entries ∨ entry.2 = value ∧
      (entry.1 = key ∨ ∃ known ∈ entries, known.1 = entry.1) := by
  induction entries with
  | nil =>
      cases List.mem_singleton.mp member
      exact .inr ⟨rfl, .inl rfl⟩
  | cons first rest induction =>
      obtain ⟨other, old⟩ := first
      unfold putEntry at member
      split at member
      · rcases List.mem_cons.mp member with rfl | later
        · exact .inr ⟨rfl, .inr ⟨(other, old), List.mem_cons_self, rfl⟩⟩
        · exact .inl (List.mem_cons_of_mem _ later)
      · rcases List.mem_cons.mp member with rfl | later
        · exact .inl List.mem_cons_self
        · rcases induction later with
            known | ⟨isValue, isKey | ⟨known, isKnown, same⟩⟩
          · exact .inl (List.mem_cons_of_mem _ known)
          · exact .inr ⟨isValue, .inl isKey⟩
          · exact .inr ⟨isValue,
              .inr ⟨known, List.mem_cons_of_mem _ isKnown, same⟩⟩

theorem distinctKeys_putEntry {entries : List (Value × Value)}
    (distinct : DistinctKeys entries) (key value : Value) :
    DistinctKeys (putEntry key value entries) := by
  induction entries with
  | nil => exact List.pairwise_singleton _ _
  | cons first rest induction =>
      obtain ⟨other, old⟩ := first
      obtain ⟨here, later⟩ := List.pairwise_cons.mp distinct
      unfold putEntry
      split
      · exact List.pairwise_cons.mpr ⟨here, later⟩
      · next isNew =>
        refine List.pairwise_cons.mpr ⟨fun entry member => ?_, induction later⟩
        rcases mem_putEntry member with
          known | ⟨_, isKey | ⟨known, isKnown, same⟩⟩
        · exact here entry known
        · rw [isKey]
          exact (Bool.not_eq_true _).mp isNew
        · rw [← same]
          exact here known isKnown

section Everywhere

variable {property : Value → Prop}

theorem everywhereEntries_putEntry {key value : Value}
    {entries : List (Value × Value)} (ofKey : key.Everywhere property)
    (ofValue : value.Everywhere property)
    (inside : EverywhereEntries property entries) :
    EverywhereEntries property (putEntry key value entries) := by
  rw [everywhereEntries_iff] at inside ⊢
  intro entry member
  rcases mem_putEntry member with
    known | ⟨isValue, isKey | ⟨known, isKnown, same⟩⟩
  · exact inside entry known
  · rw [isKey, isValue]
    exact ⟨ofKey, ofValue⟩
  · rw [← same, isValue]
    exact ⟨(inside known isKnown).1, ofValue⟩

theorem everywhereList_ofMembers {members : List Value}
    (inside : EverywhereList property members) :
    EverywhereList property (members.foldl addMember []) := by
  suffices ∀ known : List Value, EverywhereList property known →
      EverywhereList property (members.foldl addMember known) from
    this [] trivial
  rw [everywhereList_iff] at inside
  induction members with
  | nil => exact fun _ => id
  | cons member members induction =>
      intro known ofKnown
      obtain ⟨first, rest⟩ := List.forall_mem_cons.mp inside
      refine induction rest _ ?_
      unfold addMember
      split
      · exact ofKnown
      · rw [everywhereList_iff, List.forall_mem_append] at *
        exact ⟨ofKnown, List.forall_mem_singleton.mpr first⟩

end Everywhere

/-- In a value that is made entry by entry, all keys are distinct. -/
theorem everywhere_ofEntries {entries : List (Value × Value)}
    (inside : EverywhereEntries HasDistinctKeys entries) :
    (ofEntries entries).Everywhere HasDistinctKeys := by
  suffices ∀ known : List (Value × Value), DistinctKeys known →
      EverywhereEntries HasDistinctKeys known →
      (Value.mapping (entries.foldl (fun known entry =>
        putEntry entry.1 entry.2 known) known)).Everywhere HasDistinctKeys from
    this [] List.Pairwise.nil trivial
  rw [everywhereEntries_iff] at inside
  induction entries with
  | nil => exact fun _ distinct ofKnown => ⟨distinct, ofKnown⟩
  | cons entry entries induction =>
      intro known distinct ofKnown
      obtain ⟨first, rest⟩ := List.forall_mem_cons.mp inside
      exact induction rest _ (distinctKeys_putEntry distinct _ _)
        (everywhereEntries_putEntry first.1 first.2 ofKnown)

end PaneLayout.Value
