import Mathlib.Data.List.Forall2
import PaneLayout.Proofs.Plan.Planned

/-!
# Steps that carry out divisions

The split steps of an emission are the divisions of its layout in order.  Each
names both positions by their ids, and its size is a percentage of a split or is
left open for the replay.
-/

namespace PaneLayout

theorem clampToSplit_range (percentage : Int) :
    leastPercentage ≤ clampToSplit percentage ∧
      clampToSplit percentage ≤ greatestPercentage := by
  unfold clampToSplit leastPercentage greatestPercentage
  omega

theorem splitPercentage_range {weights : List Float} {index percentage : Int}
    (ok : splitPercentage weights index = .ok percentage) :
    leastPercentage ≤ percentage ∧ percentage ≤ greatestPercentage := by
  unfold splitPercentage at ok
  dsimp only at ok
  split at ok
  · cases ok
    decide
  · unfold clampPercentage at ok
    cases rounded : roundHalfUp (100 * totalWeight (restFrom weights index) /
        totalWeight (restFrom weights (index - 1))) with
    | error cause =>
        rw [rounded] at ok
        cases ok
    | ok whole =>
        rw [rounded] at ok
        cases ok
        exact clampToSplit_range whole

/-- A size that a split can be given. -/
def Sizing.IsGivable : Sizing → Prop
  | .percent percentage =>
      leastPercentage ≤ percentage ∧ percentage ≤ greatestPercentage
  | .dynamic _ => True

/-- A split step carries out a division. -/
structure Carries (division : Division) (step : SplitStep) : Prop where
  target : step.targetPaneId = some division.target.paneId
  created : step.createdPaneId = some division.created.paneId
  orientation : step.orientation = some division.orientation
  sizing : ∃ sizing, step.sizing = some sizing ∧ sizing.IsGivable

/-- The id of the step that carries out a division. -/
def Division.stepId (division : Division) : String :=
  division.parent.paneId ++ ":split:" ++ toString (division.index + 1)

/-- A split step carries out a division under the id of that division. -/
structure Realizes (division : Division) (step : SplitStep) : Prop
    extends Carries division step where
  id : step.id = division.stepId

/-- Split steps carry out divisions in order. -/
def CarryAll (divisions : List Division) (steps : List Step) : Prop :=
  List.Forall₂ (fun division step =>
    ∃ splitStep, step = .split splitStep ∧ Carries division splitStep)
    divisions steps

/-- Split steps realize divisions in order. -/
def RealizeAll (divisions : List Division) (steps : List Step) : Prop :=
  List.Forall₂ (fun division step =>
    ∃ splitStep, step = .split splitStep ∧ Realizes division splitStep)
    divisions steps

namespace PlanNode

theorem stepSize_isGivable {ratio : Ratio} {index : Nat} {size : StepSize}
    (ok : stepSize ratio index = .ok size) : size.sizing.IsGivable := by
  unfold stepSize at ok
  split at ok
  · obtain ⟨sizing, _, made⟩ := exists_of_bind_eq_ok ok
    cases made
    exact trivial
  · obtain ⟨percentage, computed, made⟩ := exists_of_bind_eq_ok ok
    cases made
    exact splitPercentage_range computed

/-! ### Where steps come from -/

mutual

/-- The ratios of the splits in pre-order. -/
def ratios : PlanNode → List Ratio
  | .terminal _ _ => []
  | .split _ _ ratio panes => ratio :: ratiosList panes

def ratiosList : List PlanNode → List Ratio
  | [] => []
  | pane :: panes => pane.ratios ++ ratiosList panes

end

/-- The step divides a pane by one of some ratios. -/
def MadeFor (ratios : List Ratio) (step : Step) : Prop :=
  ∃ id orientation index target created, ∃ ratio ∈ ratios,
    splitStep id orientation ratio index target created = .ok step

theorem MadeFor.mono {part whole : List Ratio} {step : Step}
    (madeFor : MadeFor part step) (subset : part ⊆ whole) :
    MadeFor whole step := by
  obtain ⟨id, orientation, index, target, created, ratio, member, made⟩ :=
    madeFor
  exact ⟨id, orientation, index, target, created, ratio, subset member, made⟩

theorem ownSteps_madeFor {id : String} {orientation : Orientation}
    {ratio : Ratio} {index : Nat} {ids : List String} {steps : List Step}
    (ok : ownSteps id orientation ratio index ids = .ok steps) :
    ∀ step ∈ steps, MadeFor [ratio] step := by
  induction ids generalizing index steps with
  | nil =>
      cases ok
      exact List.forall_mem_nil _
  | cons target ids induction =>
      cases ids with
      | nil =>
          cases ok
          exact List.forall_mem_nil _
      | cons created rest =>
          obtain ⟨step, made, ok⟩ := exists_of_bind_eq_ok ok
          obtain ⟨others, othersOk, ok⟩ := exists_of_bind_eq_ok ok
          cases ok
          exact List.forall_mem_cons.mpr
            ⟨⟨id, orientation, index, target, created, ratio,
              List.mem_singleton_self _, made⟩, induction othersOk⟩

mutual

/-- Every split step is made for one of the splits. -/
theorem splitSteps_madeFor : ∀ {node : PlanNode} {steps : List Step},
    node.splitSteps = .ok steps → ∀ step ∈ steps, MadeFor node.ratios step
  | .terminal _ _, _, ok => by
      cases ok
      exact List.forall_mem_nil _
  | .split _ _ ratio panes, _, ok => by
      obtain ⟨own, ownOk, ok⟩ := exists_of_bind_eq_ok ok
      obtain ⟨later, laterOk, ok⟩ := exists_of_bind_eq_ok ok
      cases ok
      rw [List.forall_mem_append]
      exact ⟨fun step member => (ownSteps_madeFor ownOk step member).mono
          (List.cons_subset_cons ratio (List.nil_subset _)),
        fun step member => (splitStepsList_madeFor laterOk step member).mono
          (List.subset_cons_self _ _)⟩

theorem splitStepsList_madeFor : ∀ {nodes : List PlanNode}
    {steps : List Step}, splitStepsList nodes = .ok steps →
    ∀ step ∈ steps, MadeFor (ratiosList nodes) step
  | [], _, ok => by
      cases ok
      exact List.forall_mem_nil _
  | _ :: _, _, ok => by
      obtain ⟨first, firstOk, ok⟩ := exists_of_bind_eq_ok ok
      obtain ⟨later, laterOk, ok⟩ := exists_of_bind_eq_ok ok
      cases ok
      rw [List.forall_mem_append]
      exact ⟨fun step member => (splitSteps_madeFor firstOk step member).mono
          (List.subset_append_left _ _),
        fun step member => (splitStepsList_madeFor laterOk step member).mono
          (List.subset_append_right _ _)⟩

end

/-! ### Steps in the order of divisions -/

theorem splitStep_realizes {division : Division} {ratio : Ratio} {step : Step}
    (ok : splitStep division.parent.paneId division.orientation ratio
      (division.index + 1) division.target.paneId division.created.paneId =
        .ok step) :
    ∃ splitStep, step = .split splitStep ∧ Realizes division splitStep := by
  obtain ⟨size, sized, made⟩ := exists_of_bind_eq_ok ok
  cases made
  refine ⟨_, rfl, ?_⟩
  constructor
  · exact ⟨rfl, rfl, rfl, _, rfl, stepSize_isGivable sized⟩
  · rfl

theorem ownSteps_realize {orientation : Orientation} {ratio : Ratio}
    {position : Position} {index : Nat} {panes : List Layout}
    {nodes : List PlanNode} {steps : List Step}
    (plans : PlansAll position index panes nodes)
    (ok : ownSteps position.paneId orientation ratio (index + 1)
      (nodes.map PlanNode.id) = .ok steps) :
    RealizeAll (Layout.ownDivisions orientation position index panes) steps := by
  induction nodes generalizing index panes steps with
  | nil =>
      cases plans
      cases ok
      exact .nil
  | cons node nodes induction =>
      cases plans with
      | @cons _ _ pane panes _ _ here later =>
      cases nodes with
      | nil =>
          cases later
          cases ok
          exact .nil
      | cons nextNode restNodes =>
          cases later with
          | @cons _ _ next rest _ _ nextHere more =>
          obtain ⟨step, made, ok⟩ := exists_of_bind_eq_ok ok
          obtain ⟨others, rest, ok⟩ := exists_of_bind_eq_ok ok
          cases ok
          rw [here.id_eq, nextHere.id_eq] at made
          exact .cons (splitStep_realizes made)
            (induction (.cons nextHere more) rest)

mutual

/-- The split steps of a plan realize the divisions of its layout in order. -/
theorem splitSteps_realize : ∀ {position : Position} {layout : Layout}
    {node : PlanNode} {steps : List Step}, Plans position layout node →
    node.splitSteps = .ok steps →
    RealizeAll (layout.divisions position) steps
  | _, _, _, _, .terminal, ok => by
      cases ok
      exact .nil
  | _, _, _, _, .split plans, ok => by
      obtain ⟨own, ownOk, ok⟩ := exists_of_bind_eq_ok ok
      obtain ⟨later, laterOk, ok⟩ := exists_of_bind_eq_ok ok
      cases ok
      exact List.rel_append (ownSteps_realize plans ownOk)
        (splitStepsList_realize plans laterOk)

theorem splitStepsList_realize : ∀ {position : Position} {index : Nat}
    {panes : List Layout} {nodes : List PlanNode} {steps : List Step},
    PlansAll position index panes nodes →
    splitStepsList nodes = .ok steps →
    RealizeAll (Layout.divisionsList position index panes) steps
  | _, _, _, _, _, .nil, ok => by
      cases ok
      exact .nil
  | _, _, _, _, _, .cons plans rest, ok => by
      obtain ⟨first, firstOk, ok⟩ := exists_of_bind_eq_ok ok
      obtain ⟨later, laterOk, ok⟩ := exists_of_bind_eq_ok ok
      cases ok
      exact List.rel_append (splitSteps_realize plans firstOk)
        (splitStepsList_realize rest laterOk)

end

end PlanNode

theorem RealizeAll.carryAll {divisions : List Division} {steps : List Step}
    (realize : RealizeAll divisions steps) : CarryAll divisions steps := by
  refine realize.imp fun division step realizes => ?_
  obtain ⟨splitStep, same, realizes⟩ := realizes
  exact ⟨splitStep, same, realizes.toCarries⟩

end PaneLayout
