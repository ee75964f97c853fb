import PaneLayout.Proofs.Compile.Grammar
import PaneLayout.Proofs.Compile.Terminal

/-!
# Compiling against the grammar

A part of the compiler agrees with the grammar if it gives what the document
describes when there is no violation, and the first violation otherwise.  Parts
that agree compose to parts that agree.
-/

namespace PaneLayout.Compile

open Value

/-- Numbers fit a double, and the tokens of a ratio are short enough. -/
def Manageable (value : Value) : Prop :=
  value.FitsDouble ∧
    match value with
    | .mapping entries => ∀ raw, lookup entries "ratio" = some (.list raw) →
        ∀ entry ∈ raw, RatioEntry.IsShort entry
    | _ => True

theorem fitsDouble_of_manageable {entries : List (Value × Value)}
    (manageable : EverywhereEntries Manageable entries) :
    EverywhereEntries FitsDouble entries :=
  Everywhere.monoEntries (fun _ holds => holds.1) entries manageable

/-- A result that is described if there is no violation, and that is the first
violation otherwise. -/
inductive Outcome {α : Type} (found : List Located) (described : α → Prop) :
    Except Error α → Prop where
  | ok {value : α} : found = [] → described value →
      Outcome found described (.ok value)
  | error {place : Place} {what : Violation} {rest : List Located} :
      found = (place, what) :: rest →
      Outcome found described (.error (.violation what place.text))

namespace Outcome

variable {α β : Type} {found foundLater : List Located}
  {described : α → Prop} {describedLater : β → Prop}

theorem bind {result : Except Error α} {next : α → Except Error β}
    (first : Outcome found described result)
    (later : ∀ value, described value →
      Outcome foundLater describedLater (next value)) :
    Outcome (found ++ foundLater) describedLater (result >>= next) := by
  cases first with
  | @ok value nothing holds =>
      rw [nothing, List.nil_append]
      exact later value holds
  | error first =>
      exact .error (by rw [first, List.cons_append])

theorem map {result : Except Error α}
    (outcome : Outcome found described result) (make : α → β)
    (made : ∀ value, described value → describedLater (make value)) :
    Outcome found describedLater
      (result >>= fun value => .ok (make value)) := by
  cases outcome with
  | ok nothing holds => exact .ok nothing (made _ holds)
  | error first => exact .error first

theorem mono {result : Except Error α} {otherwise : α → Prop}
    (outcome : Outcome found described result)
    (implies : ∀ value, described value → otherwise value) :
    Outcome found otherwise result := by
  cases outcome with
  | ok nothing holds => exact .ok nothing (implies _ holds)
  | error first => exact .error first

end Outcome

/-! ### Paths -/

theorem text_field (place : Place) (key : String) :
    Place.text (place ++ [.field key]) = place.text ++ ("." ++ key) :=
  place.text_concat (.field key)

theorem text_item (place : Place) (key : String) (index : Nat) :
    Place.text (place ++ [.item key index]) =
      place.text ++ ("." ++ key ++ "[") ++ toString index ++ "]" := by
  rw [place.text_concat]
  simp only [Move.text, String.append_assoc]

theorem text_type (place : Place) :
    place.text ++ ".type" = Place.text (place ++ [.field "type"]) :=
  (text_field place "type").symm

theorem text_panes (place : Place) :
    place.text ++ ".panes" = Place.text (place ++ [.field "panes"]) :=
  (text_field place "panes").symm

theorem text_ratio (place : Place) :
    place.text ++ ".ratio" = Place.text (place ++ [.field "ratio"]) :=
  (text_field place "ratio").symm

theorem text_ratioEntry (place : Place) (index : Nat) :
    place.text ++ ".ratio[" ++ toString index ++ "]" =
      Place.text (place ++ [.item "ratio" index]) :=
  (text_item place "ratio" index).symm

theorem text_child (place : Place) (index : Nat) :
    childPath place.text index = Place.text (place ++ [.item "panes" index]) :=
  (text_item place "panes" index).symm

/-! ### The checks of a split -/

theorem ratioEntries_outcome (place : Place) (index : Nat)
    {raw : List Value} (manageable : EverywhereList Manageable raw)
    (short : ∀ entry ∈ raw, RatioEntry.IsShort entry) :
    Outcome (entryViolations place index raw)
      (List.Forall₂ RatioEntry.Denotes raw)
      (ratioEntries place.text index raw) := by
  induction raw generalizing index with
  | nil => exact .ok rfl .nil
  | cons first rest induction =>
      obtain ⟨shortFirst, shortRest⟩ := List.forall_mem_cons.mp short
      obtain ⟨fits, fitsRest⟩ := manageable
      obtain ⟨parsed, isParsed⟩ := RatioEntry.parse_ok shortFirst (by
        rintro n rfl
        exact fits.1)
      unfold ratioEntries entryViolations
      rw [isParsed, text_ratioEntry]
      cases parsed with
      | none => exact .error rfl
      | some entry =>
          have denotes := (RatioEntry.parse_eq_some_iff shortFirst).mp isParsed
          exact (induction (index + 1) fitsRest shortRest).map
            (entry :: ·) fun _ => .cons denotes

end PaneLayout.Compile
