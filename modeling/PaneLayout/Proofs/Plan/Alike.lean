import Mathlib.Data.List.Perm.Basic
import PaneLayout.Plan
import PaneLayout.Proofs.Value.Alike

/-!
# Plans up to the order of mappings

Environments and options are mappings whose order means nothing.  The record of
a plan has a field for everything else that a plan consists of, so that a plan is
known from its record up to that order.
-/

namespace PaneLayout

/-! ### Alike plans -/

/-- The terminals differ at most in the order of their environments, and their
options are related. -/
structure Terminal.AlikeBy (related : Value → Value → Prop)
    (leaf other : Terminal) : Prop where
  same : other = { leaf with env := other.env, options := other.options }
  env : Option.Rel List.Perm leaf.env other.env
  options : Option.Rel (fun fields others =>
    related (.record fields) (.record others)) leaf.options other.options

/-- The terminals differ at most in the order of their mappings. -/
abbrev Terminal.Alike : Terminal → Terminal → Prop :=
  Terminal.AlikeBy Value.Alike

namespace PlanNode

mutual

/-- The trees are equal up to the order of environments, and the options of
their terminals are related. -/
inductive AlikeBy (related : Value → Value → Prop) :
    PlanNode → PlanNode → Prop where
  | terminal {id : String} {leaf other : Terminal} :
      leaf.AlikeBy related other →
      AlikeBy related (.terminal id leaf) (.terminal id other)
  | split {id : String} {orientation : Orientation} {ratio : Ratio}
        {panes others : List PlanNode} :
      AlikeListBy related panes others →
      AlikeBy related (.split id orientation ratio panes)
        (.split id orientation ratio others)

inductive AlikeListBy (related : Value → Value → Prop) :
    List PlanNode → List PlanNode → Prop where
  | nil : AlikeListBy related [] []
  | cons {pane other : PlanNode} {panes others : List PlanNode} :
      AlikeBy related pane other → AlikeListBy related panes others →
      AlikeListBy related (pane :: panes) (other :: others)

end

/-- The trees are equal up to the order of mappings of terminals. -/
abbrev Alike : PlanNode → PlanNode → Prop :=
  AlikeBy Value.Alike

end PlanNode

/-- The plans have trees that are alike and the same focus. -/
structure Plan.AlikeBy (related : Value → Value → Prop)
    (plan other : Plan) : Prop where
  root : plan.root.AlikeBy related other.root
  focusPaneId : plan.focusPaneId = other.focusPaneId

/-- The plans have alike trees and the same focus. -/
abbrev Plan.Alike : Plan → Plan → Prop :=
  Plan.AlikeBy Value.Alike

/-! ### Fields -/

theorem Orientation.name_injective : Function.Injective Orientation.name := by
  intro orientation other same
  cases orientation <;> cases other <;>
    first | rfl | exact absurd same (by decide)

theorem eq_of_optionRel {α : Type} {content other : Option α}
    (related : Option.Rel Eq content other) : content = other := by
  cases related with
  | some same => exact congrArg some same
  | none => rfl

namespace Value

/-- Fields at the same place are alike if they have the same key. -/
theorem Alike.fieldAt {fields others : Entries Value}
    (alike : Alike (.record fields) (.record others))
    (unique : others.keys.Nodup) (index : Nat) {key : String}
    {value other : Value} (found : fields[index]? = some (key, value))
    (otherFound : others[index]? = some (key, other)) : Alike value other :=
  alike.field unique (List.mem_of_getElem? found)
    (List.mem_of_getElem? otherFound)

theorem Alike.text {content other : String}
    (alike : Alike (.text content) (.text other)) : content = other := by
  cases alike
  rfl

theorem Alike.int {number other : Int}
    (alike : Alike (.int number) (.int other)) : number = other := by
  cases alike
  rfl

theorem Alike.bool {value other : Bool}
    (alike : Alike (.bool value) (.bool other)) : value = other := by
  cases alike
  rfl

/-- Null or a form of something. -/
def optional {α : Type} (form : α → Value) (content : Option α) : Value :=
  content.elim .null form

theorem Alike.optional {α : Type} {relation : α → α → Prop} {form : α → Value}
    {content other : Option α}
    (alike : Alike (Value.optional form content) (Value.optional form other))
    (notNull : ∀ content, form content ≠ .null)
    (related : ∀ {content other}, Alike (form content) (form other) →
      relation content other) :
    Option.Rel relation content other := by
  cases content with
  | none =>
      cases other with
      | none => exact .none
      | some other =>
          generalize made : Value.optional form (some other) = value at alike
          cases alike
          exact absurd made (notNull other)
  | some content =>
      cases other with
      | none =>
          generalize made : Value.optional form (some content) = value at alike
          cases alike
          exact absurd made (notNull content)
      | some other => exact .some (related alike)

theorem ofText?_eq_optional (content : Option String) :
    ofText? content = optional .text content := by
  cases content <;> rfl

theorem Alike.ofText? {content other : Option String}
    (alike : Alike (.ofText? content) (.ofText? other)) : content = other := by
  rw [ofText?_eq_optional, ofText?_eq_optional] at alike
  exact eq_of_optionRel (alike.optional nofun Alike.text)

/-- The entries have equal values if all values are texts. -/
theorem AlikeEntries.eq_of_texts {entries others : List (Value × Value)}
    (alike : AlikeEntries entries others)
    (texts : ∀ entry ∈ entries, ∃ content, entry.2 = .text content) :
    entries = others := by
  induction entries generalizing others with
  | nil =>
      cases alike
      rfl
  | cons entry entries induction =>
      obtain ⟨⟨content, isText⟩, textsRest⟩ := List.forall_mem_cons.mp texts
      cases alike with
      | cons first rest =>
          cases isText
          cases first
          exact congrArg _ (induction rest textsRest)

theorem Alike.assignments {env others : Entries String}
    (alike : Alike
      (.record (env.map fun (key, value) => (key, .text value)))
      (.record (others.map fun (key, value) => (key, .text value)))) :
    env.Perm others := by
  obtain ⟨reordered, reorderedOthers, perm, otherPerm, alike⟩ := alike.entries
  rw [List.map_map] at perm otherPerm
  have same := alike.eq_of_texts (by
    intro entry member
    obtain ⟨assignment, _, rfl⟩ := List.mem_map.mp (perm.mem_iff.mpr member)
    exact ⟨assignment.2, rfl⟩)
  have whole := perm.trans (same ▸ otherPerm.symm)
  refine (List.map_perm_map_iff ?_).mp whole
  rintro ⟨key, value⟩ ⟨otherKey, otherValue⟩ equal
  cases equal
  rfl

end Value

/-- The fields of a terminal, with null for what is missing. -/
theorem Terminal.fields_eq (leaf : Terminal) :
    leaf.fields = [
      ("kind", .text "terminal"),
      ("name", .text leaf.name),
      ("command", .ofText? leaf.command),
      ("cwd", .ofText? leaf.cwd),
      ("env", .optional (fun env =>
        .record (env.map fun (key, value) => (key, .text value))) leaf.env),
      ("focus", .bool leaf.focus),
      ("ephemeral", .bool leaf.ephemeral),
      ("close_on_error", .bool leaf.closeOnError),
      ("delay", .optional .int leaf.delay),
      ("title", .ofText? leaf.title),
      ("options", .optional .record leaf.options)] := by
  unfold fields
  cases leaf.env <;> cases leaf.delay <;> cases leaf.options <;> rfl

/-! ### Ratios -/

theorem RatioEntry.eq_of_alike {entry other : RatioEntry}
    (alike : entry.toValue.Alike other.toValue) : entry = other := by
  cases entry with
  | weight value =>
      cases other with
      | weight =>
          cases alike
          rfl
      | cells => cases alike
  | cells count _ =>
      cases other with
      | weight => cases alike
      | cells otherCount _ =>
          have fields : Value.Alike
              (.record [("kind", .text "fixed-cells"), ("cells", .int count)])
              (.record [("kind", .text "fixed-cells"),
                ("cells", .int otherCount)]) := alike
          have unique : ["kind", "cells"].Nodup := by decide
          cases fields.fieldAt unique 1 rfl rfl
          rfl

theorem Ratio.eq_of_alike {ratio other : Ratio}
    (alike : Value.Alike (.list (ratio.map RatioEntry.toValue))
      (.list (other.map RatioEntry.toValue))) : ratio = other := by
  have entries := alike.items
  rw [List.forall₂_map_left_iff, List.forall₂_map_right_iff] at entries
  rw [← List.forall₂_eq_eq_eq]
  exact entries.imp fun _ _ => RatioEntry.eq_of_alike

/-! ### Nodes -/

namespace PlanNode

theorem terminalKeys_nodup (id : String) (leaf : Terminal) :
    (Entries.keys (leaf.fields ++ [("id", .text id)])).Nodup := by
  change ["kind", "name", "command", "cwd", "env", "focus", "ephemeral",
    "close_on_error", "delay", "title", "options", "id"].Nodup
  decide

theorem splitKeys_nodup :
    ["kind", "id", "orientation", "ratio", "panes"].Nodup := by
  decide

theorem alike_terminal {id otherId : String} {leaf other : Terminal}
    (alike : (terminal id leaf).toValue.Alike
      (terminal otherId other).toValue) :
    (terminal id leaf).Alike (terminal otherId other) := by
  have unique := terminalKeys_nodup otherId other
  rw [toValue, toValue, leaf.fields_eq, other.fields_eq] at alike
  rw [other.fields_eq] at unique
  have sameId : id = otherId := (alike.fieldAt unique 11 rfl rfl).text
  have name : leaf.name = other.name := (alike.fieldAt unique 1 rfl rfl).text
  have command : leaf.command = other.command :=
    (alike.fieldAt unique 2 rfl rfl).ofText?
  have cwd : leaf.cwd = other.cwd := (alike.fieldAt unique 3 rfl rfl).ofText?
  have focus : leaf.focus = other.focus :=
    (alike.fieldAt unique 5 rfl rfl).bool
  have ephemeral : leaf.ephemeral = other.ephemeral :=
    (alike.fieldAt unique 6 rfl rfl).bool
  have closeOnError : leaf.closeOnError = other.closeOnError :=
    (alike.fieldAt unique 7 rfl rfl).bool
  have delay : leaf.delay = other.delay := eq_of_optionRel
    ((alike.fieldAt unique 8 rfl rfl).optional nofun Value.Alike.int)
  have title : leaf.title = other.title :=
    (alike.fieldAt unique 9 rfl rfl).ofText?
  rw [sameId]
  refine .terminal ⟨?_, ?_, ?_⟩
  · rw [name, command, cwd, focus, ephemeral, closeOnError, delay, title]
  · exact (alike.fieldAt unique 4 rfl rfl).optional nofun
      Value.Alike.assignments
  · exact (alike.fieldAt unique 10 rfl rfl).optional nofun fun alike => alike

mutual

/-- Nodes with alike records are alike. -/
theorem alike_of_toValue : ∀ {node other : PlanNode},
    node.toValue.Alike other.toValue → node.Alike other
  | .terminal _ _, .terminal _ _, alike => alike_terminal alike
  | .terminal _ _, .split _ _ _ _, alike => by
      have kinds := (alike.fieldAt splitKeys_nodup 0 rfl rfl).text
      exact absurd kinds (by decide)
  | .split _ _ _ _, .terminal otherId other, alike => by
      have unique := terminalKeys_nodup otherId other
      have kinds := (alike.fieldAt unique 0 rfl rfl).text
      exact absurd kinds (by decide)
  | .split _ _ _ _, .split _ _ _ _, alike => by
      have id := (alike.fieldAt splitKeys_nodup 1 rfl rfl).text
      have orientations := (alike.fieldAt splitKeys_nodup 2 rfl rfl).text
      have ratios := alike.fieldAt splitKeys_nodup 3 rfl rfl
      have children := alike.fieldAt splitKeys_nodup 4 rfl rfl
      rw [id, Orientation.name_injective orientations,
        Ratio.eq_of_alike ratios]
      exact .split (alikeList_of_toValue children.items)

theorem alikeList_of_toValue : ∀ {panes others : List PlanNode},
    List.Forall₂ Value.Alike (toValueList panes) (toValueList others) →
    AlikeListBy Value.Alike panes others
  | [], [], _ => .nil
  | [], _ :: _, alike => nomatch alike
  | _ :: _, [], alike => nomatch alike
  | _ :: _, _ :: _, .cons first rest =>
      .cons (alike_of_toValue first) (alikeList_of_toValue rest)

end

end PlanNode

end PaneLayout
