import PaneLayout.Proofs.Fault
import PaneLayout.Proofs.Value.Keys
import PaneLayout.Yaml.Document

/-!
# Keys of a document

Every mapping that is read from a document has distinct keys, on whatever level
it stands: its entries are put one after the other, and a key that agrees with
an earlier one replaces what stands under it.
-/

namespace PaneLayout.Yaml

/-- All mappings inside a value have distinct keys. -/
abbrev IsKeyed (value : Value) : Prop :=
  value.Everywhere Value.HasDistinctKeys

namespace Leveled

variable {α β : Type} {property : α → Prop}

/-- A property holds of the result, if there is one. -/
def Gives (property : α → Prop) (result : Leveled α) : Prop :=
  ∀ value, result = .ok value → property value

theorem gives_fail (cause : Defect) : (fail cause).Gives property :=
  fun _ ok => nomatch ok

theorem Gives.below {result : Leveled α} (gives : result.Gives property) :
    result.below.Gives property := by
  intro value ok
  cases result with
  | error failure => cases ok
  | ok made => exact gives value ok

theorem Gives.map {result : Leveled α} (gives : result.Gives property)
    {other : β → Prop} {change : α → β}
    (changed : ∀ value, property value → other (change value)) :
    Gives other (result.map change) := by
  intro value ok
  cases result with
  | error failure => cases ok
  | ok made =>
      cases ok
      exact changed made (gives made rfl)

theorem Gives.both {left : Leveled α} {right : Leveled β} {other : β → Prop}
    (ofLeft : left.Gives property) (ofRight : right.Gives other) :
    (left.both right).Gives fun pair => property pair.1 ∧ other pair.2 := by
  intro pair ok
  cases left <;> cases right <;> cases ok
  exact ⟨ofLeft _ rfl, ofRight _ rfl⟩

theorem gives_all {results : List (Leveled α)}
    (gives : ∀ result ∈ results, result.Gives property) :
    (all results).Gives fun values => ∀ value ∈ values, property value := by
  induction results with
  | nil =>
      intro values ok
      cases ok
      exact fun _ member => nomatch member
  | cons first rest induction =>
      obtain ⟨here, later⟩ := List.forall_mem_cons.mp gives
      refine (here.both (induction later)).map fun pair both => ?_
      exact List.forall_mem_cons.mpr both

end Leveled

namespace Node

open Leveled

theorem readMoment_isKeyed {text : String} {value : Value}
    (read : Scalar.readMoment text = .ok value) : IsKeyed value := by
  unfold Scalar.readMoment at read
  split at read
  · obtain ⟨date, _, read⟩ := exists_of_bind_eq_ok read
    split at read
    · cases read
      trivial
    · obtain ⟨time, _, same⟩ := exists_of_bind_eq_ok read
      cases same
      trivial
  · cases read

theorem scalar_isKeyed {tag : Tag} {text : String} {value : Value}
    (read : Scalar.value tag text = .ok value) : IsKeyed value := by
  cases tag with
  | timestamp =>
      unfold Scalar.value at read
      cases moment : Scalar.readMoment text with
      | error cause =>
          rw [moment] at read
          cases read
      | ok made =>
          rw [moment] at read
          cases read
          exact readMoment_isKeyed moment
  | bool | int | float | binary =>
      obtain ⟨made, _, same⟩ := exists_of_bind_eq_ok read
      cases same
      trivial
  | null | text =>
      cases read
      trivial
  | _ => cases read

theorem ofText_gives (tag : Tag) (text : Except Defect String) :
    (ofText tag text).Gives IsKeyed := by
  intro value ok
  unfold ofText at ok
  cases text with
  | error cause => cases ok
  | ok text =>
      change ofExcept (Scalar.value tag text) = .ok value at ok
      cases read : Scalar.value tag text with
      | error trouble =>
          rw [read] at ok
          cases ok
      | ok made =>
          rw [read] at ok
          cases ok
          exact scalar_isKeyed read

/-- The key and the value of an entry are made in the same way as other
values. -/
abbrev IsBuilt (entry : BuiltEntry) : Prop :=
  Gives IsKeyed entry.1 ∧ Gives IsKeyed entry.2

theorem entriesOf_gives {entries : List BuiltEntry}
    (built : ∀ entry ∈ entries, IsBuilt entry) :
    (entriesOf entries).Gives
      (Value.EverywhereEntries Value.HasDistinctKeys) := by
  intro values ok
  rw [Value.everywhereEntries_iff]
  refine gives_all (fun result member => ?_) values ok
  obtain ⟨entry, isEntry, rfl⟩ := List.mem_map.mp member
  exact (built entry isEntry).1.both (built entry isEntry).2

theorem isKeyed_list {items : List Value}
    (keyed : ∀ item ∈ items, IsKeyed item) : IsKeyed (.list items) :=
  ⟨trivial, Value.everywhereList_iff.mpr keyed⟩

mutual

theorem build_gives : ∀ node : Node, (build node).Gives IsKeyed
  | .scalar tag text => by
      unfold build
      split
      · exact (gives_fail _).below
      · exact ofText_gives tag _
  | .sequence tag items => by
      unfold build
      split
      · exact ((gives_all (buildItems_gives items)).map fun _ =>
          isKeyed_list).below
      · exact ((gives_all (buildPairs_gives items)).map fun _ =>
          isKeyed_list).below
      · exact ((gives_all (buildPairs_gives items)).map fun _ =>
          isKeyed_list).below
      · split
        · exact (gives_fail _).below
        · exact ofText_gives tag _
  | .mapping tag entries => by
      have made : Gives (Value.EverywhereEntries Value.HasDistinctKeys)
          (match buildEntries entries with
            | .ok (merged, own) => entriesOf (merged ++ own)
            | .error cause => .fail cause) := by
        split
        · next merged own built =>
          exact entriesOf_gives (buildEntries_gives entries built)
        · exact gives_fail _
      unfold build
      simp only
      split
      · exact (made.map fun _ => Value.everywhere_ofEntries).below
      · refine (made.map fun entries inside => ?_).below
        exact ⟨trivial, Value.everywhereList_ofMembers
          (Value.everywhereList_iff.mpr (List.forall_mem_map.mpr
            fun entry member =>
              (Value.everywhereEntries_iff.mp inside entry member).1))⟩
      · split
        · exact (gives_fail _).below
        · exact ofText_gives tag _

theorem buildItems_gives : ∀ items : List Node,
    ∀ result ∈ buildItems items, result.Gives IsKeyed
  | [], _, member => nomatch member
  | item :: items, result, member => by
      rcases List.mem_cons.mp member with rfl | later
      · exact build_gives item
      · exact buildItems_gives items result later

theorem buildPairs_gives : ∀ items : List Node,
    ∀ result ∈ buildPairs items, result.Gives IsKeyed
  | [], _, member => nomatch member
  | .mapping _ [(key, value)] :: items, result, member => by
      rcases List.mem_cons.mp member with rfl | later
      · refine ((build_gives key).both (build_gives value)).map ?_
        exact fun pair both => ⟨trivial, both.1, both.2, trivial⟩
      · exact buildPairs_gives items result later
  | .scalar _ _ :: items, result, member
  | .sequence _ _ :: items, result, member
  | .mapping _ [] :: items, result, member
  | .mapping _ (_ :: _ :: _) :: items, result, member => by
      rcases List.mem_cons.mp member with rfl | later
      · exact gives_fail _
      · exact buildPairs_gives items result later

theorem buildEntries_gives : ∀ (entries : List (Node × Node))
    {merged own : List BuiltEntry},
    buildEntries entries = .ok (merged, own) →
    ∀ entry ∈ merged ++ own, IsBuilt entry
  | [], merged, own, built => by
      cases built
      exact fun _ member => nomatch member
  | (key, value) :: entries, merged, own, built => by
      unfold buildEntries at built
      split at built
      · obtain ⟨first, firstBuilt, built⟩ := exists_of_bind_eq_ok built
        obtain ⟨⟨others, rest⟩, restBuilt, same⟩ := exists_of_bind_eq_ok built
        cases same
        have ofFirst := mergedEntries_gives value firstBuilt
        have ofRest := buildEntries_gives entries restBuilt
        rw [List.append_assoc]
        exact List.forall_mem_append.mpr ⟨ofFirst, ofRest⟩
      · obtain ⟨⟨others, rest⟩, restBuilt, same⟩ := exists_of_bind_eq_ok built
        cases same
        have ofRest := List.forall_mem_append.mp
          (buildEntries_gives entries restBuilt)
        refine List.forall_mem_append.mpr ⟨ofRest.1,
          List.forall_mem_cons.mpr ⟨⟨?_, build_gives value⟩, ofRest.2⟩⟩
        split
        · exact gives_fail _
        · split
          · exact ofText_gives .text _
          · exact build_gives key

theorem mergedEntries_gives : ∀ (node : Node) {merged : List BuiltEntry},
    mergedEntries node = .ok merged → ∀ entry ∈ merged, IsBuilt entry
  | .mapping _ entries, merged, ok => by
      obtain ⟨⟨others, own⟩, built, same⟩ := exists_of_bind_eq_ok ok
      cases same
      exact buildEntries_gives entries built
  | .sequence _ items, merged, ok => by
      obtain ⟨parts, found, same⟩ := exists_of_bind_eq_ok ok
      cases same
      intro entry member
      obtain ⟨part, isPart, inside⟩ := List.mem_flatten.mp member
      exact mergedItems_gives items found part (List.mem_reverse.mp isPart)
        entry inside
  | .scalar _ _, _, ok => nomatch ok

theorem mergedItems_gives : ∀ (items : List Node)
    {parts : List (List BuiltEntry)}, mergedItems items = .ok parts →
    ∀ part ∈ parts, ∀ entry ∈ part, IsBuilt entry
  | [], parts, ok => by
      cases ok
      exact fun _ member => nomatch member
  | .mapping _ entries :: items, parts, ok => by
      obtain ⟨⟨others, own⟩, built, ok⟩ := exists_of_bind_eq_ok ok
      obtain ⟨rest, found, same⟩ := exists_of_bind_eq_ok ok
      cases same
      exact List.forall_mem_cons.mpr
        ⟨buildEntries_gives entries built, mergedItems_gives items found⟩
  | .scalar _ _ :: _, _, ok => nomatch ok
  | .sequence _ _ :: _, _, ok => nomatch ok

end

end Node

/-- All mappings of a document have distinct keys. -/
theorem readDocument_isKeyed {text : String} {value : Value}
    (read : readDocument text = .ok value) : IsKeyed value := by
  obtain ⟨found, _, read⟩ := exists_of_bind_eq_ok read
  split at read
  · cases read
    trivial
  · split at read
    · next made built =>
      cases read
      exact Node.build_gives _ _ built
    · cases read

end PaneLayout.Yaml
