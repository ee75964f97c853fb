import PaneLayout.Proofs.Compile.Correct

/-!
# Violations are where they are said to be

Following the place of a violation from the document leads to the value that
offends.
-/

namespace PaneLayout.Compile

open Value

/-- What the value at a place has to be for a violation to be there. -/
def Violation.StandsAt : Violation → Option Value → Prop
  | .notMapping, found =>
      ∃ value, found = some value ∧ ∀ entries, value ≠ .mapping entries
  | .invalidNode node, found =>
      found = some node ∧ ∀ entries, node = .mapping entries →
        ((textField entries "type").isSome →
          (lookup entries "panes").isSome = false) ∧
        (lookup entries "panes" = none →
          textField entries "name" = none ∧ textField entries "command" = none)
  | .invalidOrientation name, found =>
      found = some (.text name) ∧
        ∀ orientation : Orientation, name ≠ orientation.name
  | .panesMissing, found =>
      ∃ value, found = some value ∧ ∀ items, value = .list items → items = []
  | .ratioMissing, found => ∀ items, found = some (.list items) → items = []
  | .ratioMismatch ratioLength panesLength, found =>
      ratioLength ≠ panesLength ∧ ∃ entries raw panes,
        found = some (.mapping entries) ∧
        lookup entries "ratio" = some (.list raw) ∧ raw.length = ratioLength ∧
        lookup entries "panes" = some (.list panes) ∧
        panes.length = panesLength
  | .invalidRatioEntry entry, found =>
      found = some entry ∧ ∀ denoted, ¬ RatioEntry.Denotes entry denoted

section StandsAt

variable {document : Value}

theorem entryViolations_standAt {place : Place} {index : Nat}
    {raw : List Value} (short : ∀ entry ∈ raw, RatioEntry.IsShort entry)
    (leads : ∀ offset entry, raw[offset]? = some entry →
      Place.follow document (place ++ [.item "ratio" (index + offset)]) =
        some entry) :
    ∀ located ∈ entryViolations place index raw,
      located.2.StandsAt (located.1.follow document) := by
  induction raw generalizing index with
  | nil => exact nofun
  | cons first rest induction =>
      obtain ⟨shortFirst, shortRest⟩ := List.forall_mem_cons.mp short
      unfold entryViolations
      intro located member
      rcases List.mem_append.mp member with here | later
      · split at here
        · cases here
        · rename_i notParsed
          cases List.mem_singleton.mp here
          refine ⟨leads 0 first rfl, fun denoted denotes => ?_⟩
          exact notParsed denoted
            ((RatioEntry.parse_eq_some_iff shortFirst).mpr denotes)
      · refine induction shortRest (fun offset entry found => ?_) located later
        rw [Nat.add_assoc, Nat.add_comm 1]
        exact leads (offset + 1) entry found

theorem follow_field (place : Place) {entries : List (Value × Value)}
    (leads : place.follow document = some (.mapping entries)) (key : String) :
    Place.follow document (place ++ [.field key]) = lookup entries key := by
  rw [Place.follow_concat, leads]
  rfl

theorem follow_item {place : Place} {entries : List (Value × Value)}
    {key : String} {items : List Value}
    (leads : place.follow document = some (.mapping entries))
    (found : lookup entries key = some (.list items)) (index : Nat) :
    Place.follow document (place ++ [.item key index]) = items[index]? := by
  rw [Place.follow_concat, leads]
  simp [Move.follow, found]

theorem items_eq_nil {entries : List (Value × Value)} {key : String}
    (missing : itemsField entries key = none) {items : List Value}
    (found : lookup entries key = some (.list items)) : items = [] := by
  by_contra nonempty
  rw [itemsField_eq_some_iff.mpr ⟨found, nonempty⟩] at missing
  cases missing

theorem ownViolations_standAt {place : Place} {typeName : String}
    {entries : List (Value × Value)}
    (leads : place.follow document = some (.mapping entries))
    (short : ∀ raw, lookup entries "ratio" = some (.list raw) →
      ∀ entry ∈ raw, RatioEntry.IsShort entry)
    (hasType : lookup entries "type" = some (.text typeName))
    (hasPanes : (lookup entries "panes").isSome) :
    ∀ located ∈ ownViolations place typeName entries,
      located.2.StandsAt (located.1.follow document) := by
  unfold ownViolations
  simp only [List.forall_mem_append]
  refine ⟨⟨⟨⟨?_, ?_⟩, ?_⟩, ?_⟩, ?_⟩
  · cases named : Orientation.ofName? typeName with
    | some orientation => exact nofun
    | none =>
        rintro located (_ | ⟨_, ⟨⟩⟩)
        refine ⟨(follow_field place leads "type").trans hasType, ?_⟩
        rintro orientation rfl
        rw [ofName?_name] at named
        cases named
  · cases missing : itemsField entries "panes" with
    | some panes => exact nofun
    | none =>
        rintro located (_ | ⟨_, ⟨⟩⟩)
        obtain ⟨value, found⟩ := Option.isSome_iff_exists.mp hasPanes
        refine ⟨value, (follow_field place leads "panes").trans found, ?_⟩
        rintro items rfl
        exact items_eq_nil missing found
  · cases missing : itemsField entries "ratio" with
    | some raw => exact nofun
    | none =>
        rintro located (_ | ⟨_, ⟨⟩⟩)
        intro items found
        exact items_eq_nil missing
          ((follow_field place leads "ratio").symm.trans found)
  · cases panesThere : itemsField entries "panes" with
    | none => exact nofun
    | some panes =>
        cases ratioThere : itemsField entries "ratio" with
        | none => exact nofun
        | some raw =>
            dsimp only
            split
            · exact nofun
            · rename_i differ
              rintro located (_ | ⟨_, ⟨⟩⟩)
              exact ⟨differ, entries, raw, panes, leads,
                (itemsField_eq_some_iff.mp ratioThere).1, rfl,
                (itemsField_eq_some_iff.mp panesThere).1, rfl⟩
  · cases ratioThere : itemsField entries "ratio" with
    | none => exact nofun
    | some raw =>
        have found := (itemsField_eq_some_iff.mp ratioThere).1
        refine entryViolations_standAt (short raw found) fun offset entry => ?_
        intro isEntry
        rw [Nat.zero_add, follow_item leads found]
        exact isEntry

theorem not_split_or_terminal {entries : List (Value × Value)}
    (kind : nodeKind entries = .neither) :
    ((textField entries "type").isSome →
      (lookup entries "panes").isSome = false) ∧
    (lookup entries "panes" = none →
      textField entries "name" = none ∧
        textField entries "command" = none) := by
  refine ⟨fun isText => ?_, fun noPanes => ?_⟩
  · obtain ⟨typeName, hasType⟩ := Option.isSome_iff_exists.mp isText
    by_contra hasPanes
    rw [nodeKind_eq_split_iff.mpr ⟨textField_eq_some_iff.mp hasType,
      (Bool.not_eq_false _).mp hasPanes⟩] at kind
    cases kind
  · have unnamed : ¬ (lookup entries "panes" = none ∧
        ((textField entries "name").isSome ∨
          (textField entries "command").isSome)) := by
      rw [← nodeKind_eq_terminal_iff, kind]
      exact nofun
    simpa [noPanes] using unnamed

mutual

theorem nodeViolations_standAt :
    ∀ (place : Place) (value : Value), value.Everywhere Manageable →
      place.follow document = some value →
      ∀ located ∈ nodeViolations place value,
        located.2.StandsAt (located.1.follow document)
  | place, .mapping entries, manageable, leads => by
      unfold nodeViolations
      cases kind : nodeKind entries with
      | split typeName =>
          obtain ⟨hasType, hasPanes⟩ := nodeKind_eq_split_iff.mp kind
          simp only [List.forall_mem_append]
          refine ⟨ownViolations_standAt leads manageable.here.2 hasType
            hasPanes, panesViolations_standAt place entries manageable.2
              fun panes found index item isItem => ?_⟩
          rw [follow_item leads found]
          exact isItem
      | terminal => exact nofun
      | neither =>
          rintro located (_ | ⟨_, ⟨⟩⟩)
          refine ⟨leads, ?_⟩
          rintro _ ⟨⟩
          exact not_split_or_terminal kind
  | _, .null, _, leads => by simp [nodeViolations, Violation.StandsAt, leads]
  | _, .bool _, _, leads => by simp [nodeViolations, Violation.StandsAt, leads]
  | _, .int _, _, leads => by simp [nodeViolations, Violation.StandsAt, leads]
  | _, .float _, _, leads => by
      simp [nodeViolations, Violation.StandsAt, leads]
  | _, .text _, _, leads => by simp [nodeViolations, Violation.StandsAt, leads]
  | _, .bytes _, _, leads => by
      simp [nodeViolations, Violation.StandsAt, leads]
  | _, .date _, _, leads => by simp [nodeViolations, Violation.StandsAt, leads]
  | _, .timestamp _, _, leads => by
      simp [nodeViolations, Violation.StandsAt, leads]
  | _, .list _, _, leads => by simp [nodeViolations, Violation.StandsAt, leads]
  | _, .tuple _, _, leads => by
      simp [nodeViolations, Violation.StandsAt, leads]
  | _, .set _, _, leads => by simp [nodeViolations, Violation.StandsAt, leads]

theorem panesViolations_standAt :
    ∀ (place : Place) (entries : List (Value × Value)),
      EverywhereEntries Manageable entries →
      (∀ panes, lookup entries "panes" = some (.list panes) →
        ∀ (index : Nat) (item : Value), panes[index]? = some item →
        Place.follow document (place ++ [.item "panes" index]) = some item) →
      ∀ located ∈ panesViolations place entries,
        located.2.StandsAt (located.1.follow document)
  | _, [], _, _ => nofun
  | place, (key, value) :: rest, ⟨_, manageable, manageableRest⟩, leads => by
      unfold panesViolations
      by_cases here : key.isText "panes" = true
      · rw [if_pos here]
        refine childrenViolations_standAt place value manageable ?_
        rintro panes rfl
        exact leads panes (by simp [lookup, here])
      · rw [if_neg here]
        refine panesViolations_standAt place rest manageableRest ?_
        intro panes found
        exact leads panes (by simpa [lookup, here] using found)

theorem childrenViolations_standAt :
    ∀ (place : Place) (value : Value), value.Everywhere Manageable →
      (∀ panes, value = .list panes →
        ∀ (index : Nat) (item : Value), panes[index]? = some item →
        Place.follow document (place ++ [.item "panes" index]) = some item) →
      ∀ located ∈ childrenViolations place value,
        located.2.StandsAt (located.1.follow document)
  | place, .list items, ⟨_, manageable⟩, leads => by
      refine nodesViolations_standAt place 0 items manageable ?_
      intro offset item isItem
      rw [Nat.zero_add]
      exact leads items rfl offset item isItem
  | _, .null, _, _ => nofun
  | _, .bool _, _, _ => nofun
  | _, .int _, _, _ => nofun
  | _, .float _, _, _ => nofun
  | _, .text _, _, _ => nofun
  | _, .bytes _, _, _ => nofun
  | _, .date _, _, _ => nofun
  | _, .timestamp _, _, _ => nofun
  | _, .tuple _, _, _ => nofun
  | _, .set _, _, _ => nofun
  | _, .mapping _, _, _ => nofun

theorem nodesViolations_standAt :
    ∀ (place : Place) (index : Nat) (items : List Value),
      EverywhereList Manageable items →
      (∀ (offset : Nat) (item : Value), items[offset]? = some item →
        Place.follow document (place ++ [.item "panes" (index + offset)]) =
          some item) →
      ∀ located ∈ nodesViolations place index items,
        located.2.StandsAt (located.1.follow document)
  | _, _, [], _, _ => nofun
  | place, index, item :: items, ⟨manageable, manageableRest⟩, leads => by
      unfold nodesViolations
      simp only [List.forall_mem_append]
      refine ⟨nodeViolations_standAt _ item manageable (leads 0 item rfl),
        nodesViolations_standAt place (index + 1) items manageableRest ?_⟩
      intro offset other isOther
      rw [Nat.add_assoc, Nat.add_comm 1]
      exact leads (offset + 1) other isOther

end

end StandsAt

/-! ### Documents -/

theorem violations_node {entries : List (Value × Value)} {node : Value}
    (found : lookup entries "layout" = some node) (present : node ≠ .null) :
    violations (.mapping entries) = nodeViolations [.field "layout"] node := by
  cases node <;> simp_all [violations]

theorem violations_standAt {value : Value}
    (manageable : value.Everywhere Manageable) :
    ∀ located ∈ violations value,
      located.2.StandsAt (located.1.follow value) := by
  cases value with
  | mapping entries =>
      cases found : lookup entries "layout" with
      | none => simp [violations, found]
      | some node =>
          by_cases present : node = .null
          · simp [violations, found, present]
          · rw [violations_node found present]
            refine nodeViolations_standAt _ node
              (Everywhere.of_lookup manageable.2 found) ?_
            exact (follow_field [] rfl "layout").trans found
  | _ => simp [violations, Violation.StandsAt, Place.follow]

end PaneLayout.Compile
