import PaneLayout.Proofs.Compile.Outcome

/-!
# The compiler agrees with the grammar

The proof follows the recursion of the compiler: the checks of a split, then its
children from left to right.  Each part leaves off at its first violation, which
is the first of the whole since all parts before it had none.
-/

namespace PaneLayout.Compile

open Value

theorem name_of_ofName? {name : String} {orientation : Orientation}
    (named : Orientation.ofName? name = some orientation) :
    name = orientation.name := by
  unfold Orientation.ofName? at named
  split at named
  · cases named
    assumption
  · split at named
    · cases named
      assumption
    · cases named

theorem ofName?_name (orientation : Orientation) :
    Orientation.ofName? orientation.name = some orientation := by
  cases orientation <;> rfl

theorem itemsField_eq_some_iff {entries : List (Value × Value)} {key : String}
    {items : List Value} :
    itemsField entries key = some items ↔
      lookup entries key = some (.list items) ∧ items ≠ [] := by
  unfold itemsField
  cases lookup entries key with
  | none => simp
  | some value =>
      cases value with
      | list present =>
          cases present with
          | nil => simp [eq_comm]
          | cons first rest =>
              simp only [Option.some.injEq, Value.list.injEq,
                iff_self_and]
              rintro rfl
              exact List.cons_ne_nil _ _
      | _ => simp

/-- What a split says about itself, by the grammar. -/
def DescribesHeader (entries : List (Value × Value)) (typeName : String)
    (header : SplitHeader) : Prop :=
  typeName = header.orientation.name ∧ ∃ panes raw,
    lookup entries "panes" = some (.list panes) ∧ panes ≠ [] ∧
    lookup entries "ratio" = some (.list raw) ∧
    raw.length = panes.length ∧ List.Forall₂ RatioEntry.Denotes raw header.ratio

theorem splitHeader_outcome (place : Place) (typeName : String)
    {entries : List (Value × Value)}
    (manageable : (Value.mapping entries).Everywhere Manageable) :
    Outcome (ownViolations place typeName entries)
      (DescribesHeader entries typeName)
      (splitHeader place.text typeName entries) := by
  unfold splitHeader ownViolations
  rw [text_type, text_panes, text_ratio]
  cases named : Orientation.ofName? typeName with
  | none => exact .error rfl
  | some orientation =>
      cases hasPanes : itemsField entries "panes" with
      | none => exact .error rfl
      | some panes =>
          cases hasRatio : itemsField entries "ratio" with
          | none => exact .error rfl
          | some raw =>
              by_cases same : raw.length = panes.length
              · have panesThere := itemsField_eq_some_iff.mp hasPanes
                have ratioThere := itemsField_eq_some_iff.mp hasRatio
                have inside := Everywhere.of_lookup manageable.2 ratioThere.1
                have entriesOutcome := ratioEntries_outcome place 0 inside.2
                  (manageable.here.2 raw ratioThere.1)
                simp only [pure_bind, if_pos same, if_neg (not_not_intro same),
                  List.nil_append, Option.getD_some]
                exact entriesOutcome.map (SplitHeader.mk orientation)
                  fun ratio denotes => ⟨name_of_ofName? named, panes, raw,
                    panesThere.1, panesThere.2, ratioThere.1, same, denotes⟩
              · simp only [pure_bind, if_neg same, if_pos same]
                exact .error rfl

/-! ### Kinds of nodes -/

theorem textField_eq_some_iff {entries : List (Value × Value)} {key : String}
    {text : String} :
    textField entries key = some text ↔
      lookup entries key = some (.text text) := by
  unfold textField
  cases lookup entries key with
  | none => simp
  | some value => cases value <;> simp [text?]

theorem nodeKind_eq_split_iff {entries : List (Value × Value)}
    {typeName : String} :
    nodeKind entries = .split typeName ↔
      lookup entries "type" = some (.text typeName) ∧
        (lookup entries "panes").isSome := by
  rw [← textField_eq_some_iff]
  unfold nodeKind hasKey
  cases (lookup entries "panes").isSome with
  | true => cases textField entries "type" <;> simp
  | false => cases textField entries "type" <;> simp <;> split <;> simp

theorem nodeKind_eq_terminal_iff {entries : List (Value × Value)} :
    nodeKind entries = .terminal ↔
      lookup entries "panes" = none ∧
        ((textField entries "name").isSome ∨
          (textField entries "command").isSome) := by
  unfold nodeKind hasKey
  cases lookup entries "panes" with
  | some value => cases textField entries "type" <;> simp
  | none =>
      cases textField entries "type" <;> cases textField entries "name" <;>
        cases textField entries "command" <;> simp

/-! ### Nodes and their children -/

mutual

theorem node_outcome :
    ∀ (place : Place) (value : Value), value.Everywhere Manageable →
      Outcome (nodeViolations place value) (Describes value)
        (node place.text value)
  | place, .mapping entries, manageable => by
      unfold nodeViolations node
      cases kind : nodeKind entries with
      | split typeName =>
          obtain ⟨hasType, _⟩ := nodeKind_eq_split_iff.mp kind
          refine (splitHeader_outcome place typeName manageable).bind
            fun header describes => ?_
          refine (panesOf_outcome place entries manageable.2).map
            (Layout.split header.orientation header.ratio)
            fun layouts children => ?_
          obtain ⟨rfl, panes, raw, hasPanes, nonempty, hasRatio, same,
            denotes⟩ := describes
          exact .split hasType hasPanes nonempty hasRatio same denotes
            (children panes hasPanes)
      | terminal =>
          obtain ⟨noPanes, named⟩ := nodeKind_eq_terminal_iff.mp kind
          have fits := fitsDouble_of_manageable manageable.2
          have short := Everywhere.monoEntries
            (fun _ => FitsDouble.hasShortNumbers) entries fits
          obtain ⟨leaf, made, sameName, sameCommand⟩ := terminal_ok short
            fun n found => (Everywhere.of_lookup fits found).here
          dsimp only
          rw [made]
          exact .ok rfl (.terminal noPanes named sameName sameCommand)
      | neither => exact .error rfl
  | _, .null, _ => .error rfl
  | _, .bool _, _ => .error rfl
  | _, .int _, _ => .error rfl
  | _, .float _, _ => .error rfl
  | _, .text _, _ => .error rfl
  | _, .bytes _, _ => .error rfl
  | _, .date _, _ => .error rfl
  | _, .timestamp _, _ => .error rfl
  | _, .list _, _ => .error rfl
  | _, .tuple _, _ => .error rfl
  | _, .set _, _ => .error rfl

theorem panesOf_outcome :
    ∀ (place : Place) (entries : List (Value × Value)),
      EverywhereEntries Manageable entries →
      Outcome (panesViolations place entries)
        (fun layouts => ∀ panes,
          lookup entries "panes" = some (.list panes) →
          DescribesAll panes layouts)
        (panesOf place.text entries)
  | _, [], _ => .ok rfl nofun
  | place, (key, value) :: rest, ⟨_, manageable, manageableRest⟩ => by
      unfold panesViolations panesOf
      by_cases here : key.isText "panes" = true
      · rw [if_pos here, if_pos here]
        have found : lookup ((key, value) :: rest) "panes" = some value := by
          simp [lookup, here]
        rw [found]
        refine (childrenOf_outcome place value manageable).mono ?_
        rintro layouts children panes ⟨⟩
        exact children panes rfl
      · rw [if_neg here, if_neg here]
        have found : lookup ((key, value) :: rest) "panes" =
            lookup rest "panes" := by
          simp [lookup, here]
        rw [found]
        exact panesOf_outcome place rest manageableRest

theorem childrenOf_outcome :
    ∀ (place : Place) (value : Value), value.Everywhere Manageable →
      Outcome (childrenViolations place value)
        (fun layouts => ∀ panes, value = .list panes →
          DescribesAll panes layouts)
        (childrenOf place.text value)
  | place, .list items, ⟨_, manageable⟩ => by
      refine (nodes_outcome place 0 items manageable).mono ?_
      rintro layouts children panes ⟨⟩
      exact children
  | _, .null, _ => .ok rfl nofun
  | _, .bool _, _ => .ok rfl nofun
  | _, .int _, _ => .ok rfl nofun
  | _, .float _, _ => .ok rfl nofun
  | _, .text _, _ => .ok rfl nofun
  | _, .bytes _, _ => .ok rfl nofun
  | _, .date _, _ => .ok rfl nofun
  | _, .timestamp _, _ => .ok rfl nofun
  | _, .tuple _, _ => .ok rfl nofun
  | _, .set _, _ => .ok rfl nofun
  | _, .mapping _, _ => .ok rfl nofun

theorem nodes_outcome :
    ∀ (place : Place) (index : Nat) (items : List Value),
      EverywhereList Manageable items →
      Outcome (nodesViolations place index items) (DescribesAll items)
        (nodes place.text index items)
  | _, _, [], _ => .ok rfl .nil
  | place, index, item :: items, ⟨manageable, manageableRest⟩ => by
      unfold nodesViolations nodes
      rw [text_child]
      refine (node_outcome _ item manageable).bind fun layout describes => ?_
      exact (nodes_outcome place (index + 1) items manageableRest).map
        (layout :: ·) fun layouts => .cons describes

end

end PaneLayout.Compile
