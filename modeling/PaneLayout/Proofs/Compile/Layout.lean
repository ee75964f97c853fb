import PaneLayout.Proofs.Compile.Derivation
import PaneLayout.Proofs.Plan.Unfolding
import PaneLayout.Proofs.Ratio.Sizing

/-!
# What compiled layouts are like

Every split of a compiled layout has children, the weights of its ratio are
finite and positive, and the delay of a terminal is not beyond the range of
doubles.
-/

namespace PaneLayout

/-- A delay that is not beyond the range of doubles. -/
def DelayInRange (delay : Option Int) : Prop :=
  ∀ milliseconds, delay = some milliseconds → milliseconds < 2 ^ 1024

theorem delayInRange_none : DelayInRange none := by
  intro milliseconds isSome
  cases isSome

namespace Layout

mutual

/-- The splits and terminals are as the compiler leaves them. -/
def IsCompiled : Layout → Prop
  | .terminal leaf => DelayInRange leaf.delay
  | .split _ ratio panes =>
      panes ≠ [] ∧ (∀ weight ∈ ratio.weights, IsGivenWeight weight) ∧
        IsCompiledList panes

def IsCompiledList : List Layout → Prop
  | [] => True
  | pane :: panes => pane.IsCompiled ∧ IsCompiledList panes

end

mutual

theorem IsCompiled.hasChildren : ∀ {layout : Layout},
    layout.IsCompiled → layout.HasChildren
  | .terminal _, _ => trivial
  | .split _ _ _, ⟨nonempty, _, children⟩ =>
      ⟨nonempty, IsCompiledList.hasChildren children⟩

theorem IsCompiledList.hasChildren : ∀ {panes : List Layout},
    IsCompiledList panes → HasChildrenList panes
  | [], _ => trivial
  | _ :: _, ⟨first, rest⟩ =>
      ⟨first.hasChildren, IsCompiledList.hasChildren rest⟩

end

end Layout

namespace Compile

/-! ### Weights -/

theorem isGivenWeight_of_parse {raw : Value} {weight : Float}
    (ok : RatioEntry.parse raw = .ok (some (.weight weight))) :
    IsGivenWeight weight := by
  have given : ∀ {x : Float},
      RatioEntry.ofWeight x = some (.weight weight) → IsGivenWeight weight := by
    intro x isWeight
    obtain ⟨finite, positive, same⟩ :=
      RatioEntry.ofWeight_eq_some_iff.mp isWeight
    cases same
    exact ⟨finite, positive⟩
  cases raw with
  | int value =>
      obtain ⟨x, _, ok⟩ := exists_of_bind_eq_ok ok
      exact given (Except.ok.inj ok)
  | float x => exact given (Except.ok.inj ok)
  | text token =>
      unfold RatioEntry.parse at ok
      dsimp only at ok
      split at ok
      · cases ok
      · obtain ⟨count, _, ok⟩ := exists_of_bind_eq_ok ok
        have fixed := Except.ok.inj ok
        unfold RatioEntry.ofCount at fixed
        split at fixed <;> cases fixed
  | _ => cases ok

theorem ratioEntries_given {path : String} {index : Nat} {raw : List Value}
    {ratio : Ratio} (ok : ratioEntries path index raw = .ok ratio) :
    ∀ weight ∈ ratio.weights, IsGivenWeight weight := by
  have read := ratioEntries_parse ok
  clear ok
  induction read with
  | nil => exact List.forall_mem_nil _
  | @cons _ entry _ _ isParsed _ given =>
      cases entry with
      | cells count positive => exact given
      | weight weight =>
          exact List.forall_mem_cons.mpr
            ⟨isGivenWeight_of_parse isParsed, given⟩

/-! ### Delays -/

theorem lt_two_pow_of_log2 {n : ℤ} {bits : ℕ} (positive : 0 < n)
    (few : n.natAbs.log2 < bits) : n < 2 ^ bits := by
  have below := (Nat.log2_lt (by omega)).mp few
  calc n ≤ n.natAbs := Int.le_natAbs
    _ < 2 ^ bits := by exact_mod_cast below

theorem delay_inRange {value : Option Value} {milliseconds : Option Int}
    (ok : delay value = .ok milliseconds) : DelayInRange milliseconds := by
  rintro some rfl
  unfold delay at ok
  split at ok
  · next whole =>
    obtain ⟨x, converted, ok⟩ := exists_of_bind_eq_ok ok
    have bits := Binary64.log2_lt_of_isFinite
      (Binary64.ofInt_eq_ok_iff.mp converted).1
    split at ok <;> cases ok
    exact lt_two_pow_of_log2 ‹_› bits
  · next x =>
    split at ok
    · next finite =>
      cases truncated : Binary64.truncate x with
      | error cause =>
          rw [truncated] at ok
          cases ok
      | ok whole =>
          rw [truncated] at ok
          cases ok
          rw [Bool.and_eq_true] at finite
          exact Binary64.truncate_lt finite.1 truncated
    · cases ok
  · cases ok

theorem terminal_inRange {entries : List (Value × Value)} {leaf : Terminal}
    (ok : terminal entries = .ok leaf) : DelayInRange leaf.delay := by
  obtain ⟨env, _, ok⟩ := exists_of_bind_eq_ok ok
  obtain ⟨milliseconds, delayOk, ok⟩ := exists_of_bind_eq_ok ok
  obtain ⟨options, _, made⟩ := exists_of_bind_eq_ok ok
  cases made
  exact delay_inRange delayOk

/-! ### Nodes -/

mutual

theorem Compiles.isCompiled : ∀ {path : String} {value : Value}
    {layout : Layout}, Compiles path value layout → layout.IsCompiled
  | _, _, _, .split _ headerOk _ nonempty children => by
      obtain ⟨_, _, _, _, _, _, ratioOk⟩ := splitHeader_ok headerOk
      obtain ⟨some, compiled⟩ := CompilesAll.isCompiled nonempty children
      exact ⟨some, ratioEntries_given ratioOk, compiled⟩
  | _, _, _, .terminal _ leafOk => terminal_inRange leafOk

theorem CompilesAll.isCompiled : ∀ {path : String} {index : Nat}
    {items : List Value} {panes : List Layout}, items ≠ [] →
    CompilesAll path index items panes →
    panes ≠ [] ∧ Layout.IsCompiledList panes
  | _, _, _, _, nonempty, .nil => absurd rfl nonempty
  | _, _, _, _, _, .cons first .nil =>
      ⟨List.cons_ne_nil _ _, first.isCompiled, trivial⟩
  | _, _, _, _, _, .cons first (.cons second rest) =>
      ⟨List.cons_ne_nil _ _, first.isCompiled,
        (CompilesAll.isCompiled (List.cons_ne_nil _ _)
          (.cons second rest)).2⟩

end

theorem layout_isCompiled {entries : List (Value × Value)}
    {compiled : Layout} (ok : layout entries = .ok (some compiled)) :
    compiled.IsCompiled := by
  obtain ⟨_, _, compiles⟩ := compiles_of_layout ok
  exact compiles.isCompiled

end Compile

end PaneLayout
