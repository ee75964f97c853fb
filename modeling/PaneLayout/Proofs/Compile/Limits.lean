import PaneLayout.Proofs.Compile.Correct

/-!
# Where compiling ends

Compiling a preset ends in a layout or in a violation, unless a number is in the
way: one that does not fit a double, or one that has too many digits.
-/

namespace PaneLayout

instance : CarriesFault Compile.Error where
  fault?
    | .violation _ _ => none
    | .fault cause => some cause

instance : CarriesFault Problem where
  fault?
    | .failure _ => none
    | .fault cause => some cause

namespace RatioEntry

theorem readDigits_numeric {text digits : List Char}
    (token : IsToken text digits) : FailsUnless False (readDigits digits) := by
  obtain ⟨_, _, _, _, nonempty, areDigits, _⟩ := token
  obtain ⟨n, numeral⟩ := exists_numeral nonempty areDigits
  rw [readDigits_numeral numeral]
  split
  · exact failsUnless_ok _
  · rintro _ _ ⟨⟩ ⟨⟩
    exact ⟨.inr rfl, id⟩

theorem parse_failsUnless (raw : Value) :
    FailsUnless (IsShort raw ∧ raw.FitsDouble) (parse raw) := by
  refine FailsUnless.of_ok ?_ fun ⟨short, fits⟩ =>
    parse_ok short fun n isInt => by rwa [isInt] at fits
  cases raw with
  | int n =>
      exact ((ofInt_failsUnless n).mono False.elim).bind fun _ _ =>
        failsUnless_ok _
  | text token =>
      unfold parse
      dsimp only
      split
      · exact failsUnless_ok _
      · next digits isRead =>
        exact (readDigits_numeric (isToken_of_tokenDigits? isRead)).bind
          fun _ _ => failsUnless_ok _
  | _ => exact failsUnless_ok _

end RatioEntry

namespace Compile

open Value

theorem failsUnless_violation {α : Type} {condition : Prop}
    (what : Violation) (path : String) :
    FailsUnless condition (.error (.violation what path) : Except Error α) := by
  rintro _ _ ⟨⟩ ⟨⟩

theorem failsUnless_lift {α : Type} {condition : Prop}
    {result : Except Fault α} (fails : FailsUnless condition result) :
    FailsUnless condition (MonadLift.monadLift result : Except Error α) := by
  intro error cause isError isFault
  cases result with
  | ok value => cases isError
  | error known =>
      cases isError
      exact fails known cause rfl isFault

/-! ### Splits -/

/-- The numbers of a ratio: weights fit a double, and neither the number of
entries nor a number of cells has too many digits. -/
structure RatioInLimits (raw : List Value) : Prop where
  entries : ∀ entry ∈ raw, RatioEntry.IsShort entry ∧ entry.FitsDouble
  length : raw.length < Nat.pow 10 digitLimit
  cells : ∀ ratio : Ratio, List.Forall₂ RatioEntry.Denotes raw ratio →
    total ratio.fixedCells < Nat.pow 10 digitLimit

theorem ratioEntries_failsUnless (path : String) (index : Nat)
    (raw : List Value) :
    FailsUnless (∀ entry ∈ raw, RatioEntry.IsShort entry ∧ entry.FitsDouble)
      (ratioEntries path index raw) := by
  induction raw generalizing index with
  | nil => exact failsUnless_ok _
  | cons first rest induction =>
      unfold ratioEntries
      refine FailsUnless.bind (failsUnless_lift
        ((RatioEntry.parse_failsUnless first).mono
          fun short => short first List.mem_cons_self)) fun parsed _ => ?_
      cases parsed with
      | none => exact failsUnless_violation _ _
      | some entry =>
          exact ((induction (index + 1)).mono fun short =>
            (List.forall_mem_cons.mp short).2).bind fun _ _ => failsUnless_ok _

theorem splitHeader_failsUnless (path typeName : String)
    (entries : List (Value × Value)) :
    FailsUnless (∀ raw, lookup entries "ratio" = some (.list raw) →
      RatioInLimits raw) (splitHeader path typeName entries) := by
  unfold splitHeader
  cases Orientation.ofName? typeName with
  | none => exact failsUnless_violation _ _
  | some orientation =>
  cases itemsField entries "panes" with
  | none => exact failsUnless_violation _ _
  | some panes =>
  cases hasRatio : itemsField entries "ratio" with
  | none => exact failsUnless_violation _ _
  | some raw =>
      simp only [pure_bind]
      split
      · exact failsUnless_violation _ _
      · refine FailsUnless.bind ((ratioEntries_failsUnless path 0 raw).mono
          fun inLimits => ?_) fun _ _ => failsUnless_ok _
        exact (inLimits raw (itemsField_eq_some_iff.mp hasRatio).1).entries

/-! ### Nodes -/

/-- Numbers have few digits; where a layout has a weight or a delay, they fit a
double, and the counts of a ratio have few digits too. -/
def InLimits : Value → Prop
  | .mapping entries =>
      (∀ n, lookup entries "delay" = some (.int n) →
        (Value.int n).FitsDouble) ∧
      ∀ raw, lookup entries "ratio" = some (.list raw) → RatioInLimits raw
  | value => value.HasShortNumbers

theorem InLimits.hasShortNumbers {value : Value} (inLimits : InLimits value) :
    value.HasShortNumbers := by
  cases value with
  | mapping entries => trivial
  | _ => exact inLimits

mutual

theorem node_failsUnless : ∀ (path : String) (value : Value),
    FailsUnless (value.Everywhere InLimits) (node path value)
  | path, .mapping entries => by
      unfold node
      cases nodeKind entries with
      | split typeName =>
          refine FailsUnless.bind ((splitHeader_failsUnless path typeName
            entries).mono fun inLimits => inLimits.1.2) fun header _ => ?_
          exact ((panesOf_failsUnless path entries).mono And.right).bind
            fun _ _ => failsUnless_ok _
      | terminal =>
          refine FailsUnless.bind (failsUnless_lift
            ((terminal_failsUnless entries).mono fun inLimits => ⟨?_, ?_⟩))
            fun _ _ => failsUnless_ok _
          · exact Everywhere.monoEntries (fun _ => InLimits.hasShortNumbers)
              entries inLimits.2
          · exact inLimits.1.1
      | neither => exact failsUnless_violation _ _
  | _, .null => failsUnless_violation _ _
  | _, .bool _ => failsUnless_violation _ _
  | _, .int _ => failsUnless_violation _ _
  | _, .float _ => failsUnless_violation _ _
  | _, .text _ => failsUnless_violation _ _
  | _, .bytes _ => failsUnless_violation _ _
  | _, .date _ => failsUnless_violation _ _
  | _, .timestamp _ => failsUnless_violation _ _
  | _, .list _ => failsUnless_violation _ _
  | _, .tuple _ => failsUnless_violation _ _
  | _, .set _ => failsUnless_violation _ _

theorem panesOf_failsUnless : ∀ (path : String)
    (entries : List (Value × Value)),
    FailsUnless (EverywhereEntries InLimits entries) (panesOf path entries)
  | _, [] => failsUnless_ok _
  | path, (key, value) :: rest => by
      unfold panesOf
      split
      · exact (childrenOf_failsUnless path value).mono (·.2.1)
      · exact (panesOf_failsUnless path rest).mono (·.2.2)

theorem childrenOf_failsUnless : ∀ (path : String) (value : Value),
    FailsUnless (value.Everywhere InLimits) (childrenOf path value)
  | path, .list items => (nodes_failsUnless path 0 items).mono And.right
  | _, .null => failsUnless_ok _
  | _, .bool _ => failsUnless_ok _
  | _, .int _ => failsUnless_ok _
  | _, .float _ => failsUnless_ok _
  | _, .text _ => failsUnless_ok _
  | _, .bytes _ => failsUnless_ok _
  | _, .date _ => failsUnless_ok _
  | _, .timestamp _ => failsUnless_ok _
  | _, .tuple _ => failsUnless_ok _
  | _, .set _ => failsUnless_ok _
  | _, .mapping _ => failsUnless_ok _

theorem nodes_failsUnless : ∀ (path : String) (index : Nat)
    (items : List Value),
    FailsUnless (EverywhereList InLimits items) (nodes path index items)
  | _, _, [] => failsUnless_ok _
  | path, index, item :: items =>
      ((node_failsUnless (childPath path index) item).mono And.left).bind
        fun _ _ => ((nodes_failsUnless path (index + 1) items).mono
          And.right).bind fun _ _ => failsUnless_ok _

end

theorem layout_failsUnless (entries : List (Value × Value)) :
    FailsUnless (EverywhereEntries InLimits entries) (layout entries) := by
  unfold layout
  split
  · exact failsUnless_ok _
  · exact failsUnless_ok _
  · next value _ found =>
    exact ((node_failsUnless layoutPath value).mono fun inLimits =>
      Everywhere.of_lookup inLimits found).map some

theorem compile_failsUnless (source : String) (value : Value) :
    FailsUnless (value.Everywhere InLimits) (compile source value) := by
  cases value with
  | mapping entries =>
      exact ((layout_failsUnless entries).mono And.right).bind
        fun _ _ => failsUnless_ok _
  | _ => exact failsUnless_violation _ _

end Compile

theorem Preset.ofValue_failsUnless (source : String) (value : Value) :
    FailsUnless (value.Everywhere Compile.InLimits)
      (Preset.ofValue source value) := by
  intro error cause isError isFault
  unfold Preset.ofValue at isError
  cases compiled : Compile.compile source value with
  | ok preset =>
      rw [compiled] at isError
      cases isError
  | error known =>
      rw [compiled] at isError
      cases isError
      refine Compile.compile_failsUnless source value known cause compiled ?_
      cases known with
      | violation what path => cases isFault
      | fault found => exact isFault

end PaneLayout
