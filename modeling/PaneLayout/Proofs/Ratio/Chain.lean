import Mathlib.Data.List.Forall2
import PaneLayout.Proofs.Json.Written
import PaneLayout.Proofs.Ratio.Sizing

/-!
# Splitting by cell counts

A split with fixed entries is replayed by a chain of divisions.  Each of them
keeps one entry in the pane that it divides, and its new pane holds the entries
that are left.  Once no weights are left, the cells of that pane are just what
the fixed entries need, because the last weight takes all that they leave.
-/

namespace PaneLayout

open Binary64

/-! ### One division -/

namespace DynamicSizing

/-- How the cell counts of a split come out. -/
inductive Resolves (sizing : DynamicSizing) (cells : Int) :
    Except SizeError CellSplit → Prop where
  | split {target : Int} : 0 < cells → sizing.targetCells cells = .ok target →
      1 ≤ target → 1 ≤ cells - target →
      Resolves sizing cells (.ok ⟨target, cells - target⟩)
  | unknown : cells ≤ 0 → Resolves sizing cells (.error .unknownSize)
  | tooSmall {target : Int} : 0 < cells →
      sizing.targetCells cells = .ok target → target < 1 ∨ cells - target < 1 →
      Resolves sizing cells (.error .tooSmall)
  | fault {cause : Fault} : 0 < cells →
      sizing.targetCells cells = .error cause →
      Resolves sizing cells (.error (.fault cause))

theorem resolves (sizing : DynamicSizing) (cells : Int) :
    sizing.Resolves cells (sizing.resolve (some cells)) := by
  unfold resolve
  dsimp only
  split
  · next nothing => exact .unknown nothing
  · next some =>
    have positive := Int.lt_of_not_ge some
    cases targets : sizing.targetCells cells with
    | error cause => exact .fault positive targets
    | ok target =>
        dsimp only
        split
        · next small => exact .tooSmall positive targets small
        · next enough =>
          exact .split positive targets (by omega) (by omega)

theorem problem_unknownSize (sizing : DynamicSizing) (cells : Option Int)
    (stepId : String) :
    ∃ message, sizing.problem cells stepId .unknownSize =
      .failure (sizing.sizeFailure cells stepId message) := by
  unfold problem
  exact ⟨_, rfl⟩

theorem problem_tooSmall (sizing : DynamicSizing) {cells : Int} {text : String}
    (written : wholeText cells = .ok text) (stepId : String) :
    ∃ message, sizing.problem (some cells) stepId .tooSmall =
      .failure (sizing.sizeFailure (some cells) stepId message) := by
  unfold problem
  dsimp only [Option.getD_some]
  rw [written]
  exact ⟨_, rfl⟩

end DynamicSizing

/-! ### The divisions of a ratio -/

/-- The size is one that the entry allows: at least a cell, and the count of a
fixed entry. -/
def RatioEntry.Fits (entry : RatioEntry) (size : Int) : Prop :=
  1 ≤ size ∧ ∀ count, entry.cells? = some count → size = count

namespace Ratio

/-- A ratio that is replayed by cell counts. -/
structure IsPlanned (ratio : Ratio) : Prop where
  normalized : ratio.IsNormalized
  several : 2 ≤ ratio.length
  fixed : ratio.fixedCells ≠ []
  weighted : ratio.weights ≠ []

/-- The divisions of a pane before an index are resolved, each for the pane that
the one before it made: the cells that are left, and the sizes so far. -/
inductive Divides (ratio : Ratio) (paneCells : Int) :
    Nat → Int → List Int → Prop where
  | whole : Divides ratio paneCells 1 paneCells []
  | division {index : Nat} {left : Int} {sizes : List Int}
      {sizing : DynamicSizing} {split : CellSplit} :
      Divides ratio paneCells index left sizes →
      ratio.dynamicSizing index = .ok sizing →
      sizing.resolve (some left) = .ok split →
      Divides ratio paneCells (index + 1) split.created
        (sizes ++ [split.target])

/-- The sizing of the division between an entry and those after it. -/
def sizingOf (entry : RatioEntry) (others : Ratio) : DynamicSizing where
  target := entry
  remainingCells := total others.fixedCells
  remainingWeight := totalWeight others.weights
  remainingWeightCount := others.weights.length

theorem dynamicSizing_append (before : Ratio) (entry : RatioEntry)
    (others : Ratio) :
    (before ++ entry :: others).dynamicSizing
      ((before.length + 1 : Nat) : Int) = .ok (sizingOf entry others) := by
  have target : elementAt? (before ++ entry :: others)
      (((before.length + 1 : Nat) : Int) - 1) = some entry := by
    rw [Nat.cast_succ, add_sub_cancel_right, elementAt?_ofNat]
    simp
  have rest : restFrom (before ++ entry :: others)
      ((before.length + 1 : Nat) : Int) = others := by
    rw [restFrom_ofNat]
    simp
  rw [dynamicSizing, rest, target]
  rfl

/-- What the divisions so far have done to a pane: the entries before fit their
sizes, and the entries after share what is left. -/
structure Leaves (before after : Ratio) (paneCells left : Int)
    (sizes : List Int) : Prop where
  fits : List.Forall₂ RatioEntry.Fits before sizes
  sum : sizes.sum + left = paneCells
  positive : sizes ≠ [] → 1 ≤ left
  reserved : after.weights = [] → left = total after.fixedCells

theorem sum_nonneg {before : Ratio} {sizes : List Int}
    (fits : List.Forall₂ RatioEntry.Fits before sizes) : 0 ≤ sizes.sum := by
  induction fits with
  | nil => exact le_rfl
  | cons first _ induction =>
      rw [List.sum_cons]
      have := first.1
      omega

theorem Leaves.le {before after : Ratio} {paneCells left : Int}
    {sizes : List Int} (leaves : Leaves before after paneCells left sizes) :
    left ≤ paneCells := by
  have := sum_nonneg leaves.fits
  have := leaves.sum
  omega

/-- A weight without others after it takes all that the fixed entries leave. -/
theorem targetCells_last {weight : Float} {others : Ratio} {cells target : Int}
    (last : others.weights = [])
    (planned : (sizingOf (.weight weight) others).IsPlanned)
    (few : |cells - total others.fixedCells| ≤ 2 ^ 201)
    (roundsBack : ∀ count : Nat, 0 < count → count ≤ cells → 0 < weight →
      RoundsBack count weight)
    (isTarget : (sizingOf (.weight weight) others).targetCells cells =
      .ok target) (positive : 1 ≤ target) :
    target = cells - total others.fixedCells := by
  obtain ⟨known, isKnown, sign⟩ :=
    planned.exists_targetCells (show 201 < 1023 by norm_num) few
  obtain rfl := Except.ok.inj (isKnown.symm.trans isTarget)
  have remains : 0 < cells - total others.fixedCells := by
    by_contra nothing
    have := sign weight rfl (Int.not_lt.mp nothing)
    omega
  obtain ⟨count, isCount⟩ := Int.eq_ofNat_of_zero_le remains.le
  simp only [DynamicSizing.targetCells, sizingOf, last] at isTarget
  rw [isCount] at isTarget
  split at isTarget
  · next share =>
    obtain ⟨value, isValue, _⟩ := planned.target weight rfl
    have weighs : 0 < weight := (zero_lt_iff isValue).mpr
      ((zero_lt_iff (value_add_zero isValue)).mp share)
    have back := roundsBack count (by omega) (by omega) weighs
    rw [isCount]
    exact Except.ok.inj (isTarget.symm.trans back)
  · rw [isCount]
    exact (Except.ok.inj isTarget).symm

/-- A division keeps what the ones before it have done. -/
theorem Leaves.next {before after : Ratio} {entry : RatioEntry}
    {paneCells left : Int} {sizes : List Int} {split : CellSplit}
    (leaves : Leaves before (entry :: after) paneCells left sizes)
    (planned : (sizingOf entry after).IsPlanned)
    (few : |left - total after.fixedCells| ≤ 2 ^ 201)
    (roundsBack : ∀ weight, entry = .weight weight → ∀ count : Nat,
      0 < count → count ≤ left → 0 < weight → RoundsBack count weight)
    (ok : (sizingOf entry after).resolve (some left) = .ok split) :
    Leaves (before ++ [entry]) after paneCells split.created
      (sizes ++ [split.target]) := by
  have resolves := (sizingOf entry after).resolves left
  rw [ok] at resolves
  cases resolves with
  | @split target _ isTarget most created =>
  refine ⟨List.rel_append leaves.fits (.cons ⟨most, ?_⟩ .nil), ?_,
    fun _ => created, fun last => ?_⟩
  · rintro count isFixed
    cases entry with
    | weight weight => cases isFixed
    | cells known positive =>
        cases isFixed
        exact (Except.ok.inj isTarget).symm
  · have := leaves.sum
    rw [List.sum_append, List.sum_singleton]
    dsimp only
    omega
  · -- No weights are left: the last one took the rest, or there was none.
    cases entry with
    | cells count positive =>
        have all := leaves.reserved last
        have kept := Except.ok.inj isTarget
        simp only [fixedCells, List.filterMap_cons, RatioEntry.cells?,
          total_cons, Nat.cast_add] at all ⊢
        omega
    | weight weight =>
        have taken := targetCells_last last planned few (roundsBack weight rfl)
          isTarget most
        dsimp only
        omega

section Divides

variable {ratio : Ratio} {paneCells left : Int} {index : Nat}
  {sizes : List Int}

theorem Leaves.few {before after : Ratio} {entry : RatioEntry}
    (leaves : Leaves before (entry :: after) paneCells left sizes)
    (pane : paneCells ≤ 2 ^ 200)
    (reserved : total (before ++ entry :: after).fixedCells ≤ 2 ^ 200)
    (positive : 0 < left) : |left - total after.fixedCells| ≤ 2 ^ 201 := by
  have part : total after.fixedCells ≤
      total (before ++ entry :: after).fixedCells := by
    rw [fixedCells, fixedCells, List.filterMap_append, total_append]
    cases entry <;> simp only [List.filterMap_cons, RatioEntry.cells?,
      total_cons] <;> omega
  have cast : (total after.fixedCells : ℤ) ≤ 2 ^ 200 := by
    exact_mod_cast part.trans reserved
  have := leaves.le
  rw [pow_succ, abs_le]
  generalize (2 : ℤ) ^ 200 = bound at pane cast ⊢
  omega

/-- What the divisions of a ratio have done to a pane. -/
theorem Divides.leaves (planned : ratio.IsPlanned) (pane : paneCells ≤ 2 ^ 200)
    (reserved : total ratio.fixedCells ≤ 2 ^ 200)
    (roundsBack : ∀ count : Nat, 0 < count → count ≤ paneCells →
      ∀ weight ∈ ratio.weights, 0 < weight → RoundsBack count weight)
    (divides : ratio.Divides paneCells index left sizes)
    (inside : index ≤ ratio.length) :
    ∃ before after, ratio = before ++ after ∧ index = before.length + 1 ∧
      Leaves before after paneCells left sizes := by
  induction divides with
  | whole =>
      refine ⟨[], ratio, rfl, rfl, .nil, zero_add _, fun more => ?_,
        fun last => absurd last planned.weighted⟩
      exact absurd rfl more
  | @division index left sizes sizing split _ isSizing ok induction =>
      obtain ⟨before, after, rfl, rfl, leaves⟩ := induction (by omega)
      cases after with
      | nil => simp at inside
      | cons entry others =>
          rw [dynamicSizing_append] at isSizing
          cases isSizing
          have positive : 0 < left := by
            have resolves := (sizingOf entry others).resolves left
            rw [ok] at resolves
            cases resolves
            assumption
          refine ⟨before ++ [entry], others, by simp, by simp, ?_⟩
          refine leaves.next (planned.normalized.isPlanned
            (dynamicSizing_append before entry others))
            (leaves.few pane reserved positive) ?_ ok
          rintro weight rfl count some most
          refine roundsBack count some (most.trans leaves.le) weight ?_
          simp [weights, RatioEntry.weight?]

theorem total_le {counts : List Nat} {bound : Nat}
    (below : ∀ count ∈ counts, count < bound) :
    total counts ≤ counts.length * bound := by
  induction counts with
  | nil => exact Nat.zero_le _
  | cons count counts induction =>
      obtain ⟨first, rest⟩ := List.forall_mem_cons.mp below
      have := induction rest
      rw [total_cons, List.length_cons, Nat.succ_mul]
      omega

theorem total_fixedCells_le
    (fewFixed : ∀ count ∈ ratio.fixedCells, count < 2 ^ 53)
    (short : ratio.length < 2 ^ 64) : total ratio.fixedCells ≤ 2 ^ 200 := by
  calc total ratio.fixedCells
    _ ≤ ratio.fixedCells.length * 2 ^ 53 := total_le fewFixed
    _ ≤ 2 ^ 64 * 2 ^ 53 := Nat.mul_le_mul_right _
        ((List.length_filterMap_le _ _).trans short.le)
    _ ≤ 2 ^ 200 := by
        rw [← pow_add]
        exact Nat.pow_le_pow_right two_pos (by norm_num)

/-- The next division resolves to less than all cells, or it is a failure. -/
theorem Leaves.resolves {before after : Ratio} {entry : RatioEntry}
    (leaves : Leaves before (entry :: after) paneCells left sizes)
    (planned : (sizingOf entry after).IsPlanned) (pane : paneCells ≤ 2 ^ 200)
    (reserved : total (before ++ entry :: after).fixedCells ≤ 2 ^ 200) :
    (∃ split, (sizingOf entry after).resolve (some left) = .ok split ∧
      1 ≤ split.created ∧ split.created ≤ left - 1) ∨
    ∃ error, (sizingOf entry after).resolve (some left) = .error error ∧
      ∀ stepId, ∃ message,
        (sizingOf entry after).problem (some left) stepId error = .failure
          ((sizingOf entry after).sizeFailure (some left) stepId message) := by
  have resolves := (sizingOf entry after).resolves left
  generalize (sizingOf entry after).resolve (some left) = result at resolves
  cases resolves with
  | @split target _ _ most created =>
      exact .inl ⟨_, rfl, created, by dsimp only; omega⟩
  | unknown =>
      exact .inr ⟨_, rfl, (sizingOf entry after).problem_unknownSize _⟩
  | tooSmall positive =>
      have few : |left| ≤ 2 ^ 200 := by
        rw [abs_of_pos positive]
        exact leaves.le.trans pane
      obtain ⟨_, isValue, _⟩ := value_ofInt (by norm_num) few
      have written := wholeText_of_fits ⟨_, ofInt_of_value isValue⟩
      exact .inr ⟨_, rfl, (sizingOf entry after).problem_tooSmall written⟩
  | @fault cause positive faults =>
      obtain ⟨target, isTarget, _⟩ := planned.exists_targetCells (by norm_num)
        (leaves.few pane reserved positive)
      cases isTarget.symm.trans faults

/-- All divisions are resolved once a single entry is left. -/
theorem Leaves.fits_last {before : Ratio} {last : RatioEntry}
    (leaves : Leaves before [last] paneCells left sizes)
    (several : before ≠ []) :
    List.Forall₂ RatioEntry.Fits (before ++ [last]) (sizes ++ [left]) := by
  refine List.rel_append leaves.fits (.cons ⟨leaves.positive ?_, ?_⟩ .nil)
  · rintro rfl
    exact several (List.forall₂_nil_right_iff.mp leaves.fits)
  · rintro count isFixed
    cases last with
    | weight weight => cases isFixed
    | cells known positive =>
        cases isFixed
        exact leaves.reserved rfl

/-- Every division of a planned ratio resolves to a pane of at least one cell
and of less than all cells, or it fails for want of a size.  Once the last
division is resolved, all panes together have the cells of the divided one, and
every fixed entry has its count.  Beyond `2 ^ 50` cells this needs that rounding
gives back a number of cells that was multiplied with a weight and divided by
it.  No list in memory is too long for it. -/
theorem IsPlanned.sizes_exact (planned : ratio.IsPlanned)
    (pane : paneCells < 2 ^ 53)
    (fewFixed : ∀ count ∈ ratio.fixedCells, count < 2 ^ 53)
    (short : ratio.length < 2 ^ 64)
    (roundsBack : ∀ count : Nat, 2 ^ 50 < count → count ≤ paneCells →
      ∀ weight ∈ ratio.weights, 0 < weight → RoundsBack count weight)
    (divides : ratio.Divides paneCells index left sizes) :
    (index < ratio.length →
      ∃ sizing, ratio.dynamicSizing index = .ok sizing ∧
        ((∃ split, sizing.resolve (some left) = .ok split ∧
            1 ≤ split.created ∧ split.created ≤ left - 1) ∨
          ∃ error, sizing.resolve (some left) = .error error ∧
            ∀ stepId, ∃ failure,
              sizing.problem (some left) stepId error = .failure failure ∧
              failure.code = "SPLIT_SIZE_RESOLUTION_FAILED")) ∧
    (index = ratio.length →
      (sizes ++ [left]).sum = paneCells ∧
        List.Forall₂ RatioEntry.Fits ratio (sizes ++ [left])) := by
  have reserved := total_fixedCells_le fewFixed short
  have wide : paneCells ≤ 2 ^ 200 := pane.le.trans (by norm_num)
  have back : ∀ count : Nat, 0 < count → count ≤ paneCells →
      ∀ weight ∈ ratio.weights, 0 < weight → RoundsBack count weight := by
    intro count some most weight member weighs
    -- The weights of a normalized ratio are small enough for few cells.
    by_cases few : count ≤ 2 ^ 50
    · obtain ⟨share, isShare, _, atMost⟩ :=
        planned.normalized.isShare weight member
      exact roundsBack_of_le some few isShare ((zero_lt_iff isShare).mp weighs)
        atMost
    · exact roundsBack count (Nat.lt_of_not_le few) most weight member weighs
  constructor
  · intro inside
    obtain ⟨before, after, rfl, rfl, leaves⟩ :=
      divides.leaves planned wide reserved back inside.le
    cases after with
    | nil => simp at inside
    | cons entry after =>
        have isSizing := dynamicSizing_append before entry after
        refine ⟨_, isSizing, ?_⟩
        rcases leaves.resolves (planned.normalized.isPlanned isSizing) wide
          reserved with resolved | ⟨error, failed, reported⟩
        · exact .inl resolved
        · refine .inr ⟨error, failed, fun stepId => ?_⟩
          obtain ⟨message, isFailure⟩ := reported stepId
          exact ⟨_, isFailure, rfl⟩
  · intro isLast
    obtain ⟨before, after, rfl, rfl, leaves⟩ :=
      divides.leaves planned wide reserved back isLast.le
    obtain ⟨last, rfl⟩ : ∃ last, after = [last] :=
      List.length_eq_one_iff.mp (by rw [List.length_append] at isLast; omega)
    have several : before ≠ [] := by
      rintro rfl
      exact absurd planned.several (by simp)
    exact ⟨by rw [List.sum_append, List.sum_singleton]; exact leaves.sum,
      leaves.fits_last several⟩

end Divides

/-- A division whose outcome is computed. -/
theorem Divides.division_of_eq {ratio : Ratio} {paneCells left : Int}
    {index : Nat} {sizes : List Int}
    (divides : ratio.Divides paneCells index left sizes) (split : CellSplit)
    (computed : (ratio.dynamicSizing index).toOption.bind
      (fun sizing => (sizing.resolve (some left)).toOption) = some split) :
    ratio.Divides paneCells (index + 1) split.created
      (sizes ++ [split.target]) := by
  cases isSizing : ratio.dynamicSizing index with
  | error cause =>
      rw [isSizing] at computed
      cases computed
  | ok sizing =>
      refine divides.division isSizing ?_
      rw [isSizing] at computed
      dsimp only [Except.toOption, Option.bind_some] at computed
      split at computed
      · cases computed
        assumption
      · cases computed

/-- Fixed entries before, between and after weights. -/
def interleaved : Ratio :=
  normalize [.cells 5 (by decide), .weight 1, .cells 30 (by decide), .weight 2,
    .cells 10 (by decide)]

theorem sizes_exact_interleaved :
    interleaved.IsPlanned ∧ interleaved.length = 5 ∧
      interleaved.Divides 120 5 10 [5, 25, 30, 50] ∧
      ([5, 25, 30, 50] ++ [10] : List Int).sum = 120 ∧
      List.Forall₂ RatioEntry.Fits interleaved
        ([5, 25, 30, 50] ++ [10]) := by
  have planned : interleaved.IsPlanned :=
    ⟨⟨_, by decide +kernel, rfl⟩, by decide, by decide, by decide⟩
  have first : interleaved.Divides 120 2 115 [5] :=
    Divides.whole.division_of_eq ⟨5, 115⟩ (by decide +kernel)
  have second : interleaved.Divides 120 3 90 [5, 25] :=
    first.division_of_eq ⟨25, 90⟩ (by decide +kernel)
  have third : interleaved.Divides 120 4 60 [5, 25, 30] :=
    second.division_of_eq ⟨30, 60⟩ (by decide +kernel)
  have fourth : interleaved.Divides 120 5 10 [5, 25, 30, 50] :=
    third.division_of_eq ⟨50, 10⟩ (by decide +kernel)
  have sizes := planned.sizes_exact (by norm_num) (by decide) (by decide)
    (by omega) fourth
  exact ⟨planned, by decide, fourth, sizes.2 (by decide)⟩

end Ratio

end PaneLayout
