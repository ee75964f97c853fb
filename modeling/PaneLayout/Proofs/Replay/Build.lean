import Mathlib.Data.List.Nodup
import Mathlib.Data.Option.Basic
import PaneLayout.Proofs.Plan.Order
import PaneLayout.Proofs.Replay.Divide

/-!
# Building a window step by step

While split steps are carried out, the tree of the window is the tree of the
divisions so far, with the pane of its anchor at every leaf.  One step keeps it
so, and so do all steps in order.
-/

namespace PaneLayout

/-! ### Windows that reflect a plan -/

/-- The tree of a window with the listed panes is that of the divisions so far,
and the pane map tracks it. -/
structure Reflects (leftmost : Position) (divided : PaneTree Position)
    (placed : Placement) (panes : PaneMap) (tree : PaneTree String)
    (listed : List String) : Prop where
  tracks : panes.Tracks leftmost placed
  placing : tree.map some = divided.map placed
  only : ∀ anchor pane, placed anchor = some pane → anchor ∈ divided.leaves
  leaves : tree.leaves.Perm listed

namespace Reflects

variable {leftmost : Position} {divided : PaneTree Position}
  {placed : Placement} {panes : PaneMap} {tree : PaneTree String}
  {listed : List String}

theorem start {pane : String} (chain : leftmost.anchor = [])
    (nonblank : pane ≠ "") :
    Reflects leftmost (.leaf []) (.start pane)
      (PaneMap.empty.register leftmost.paneId pane) (.leaf pane) [pane] where
  tracks := .start chain nonblank
  placing := rfl
  only := by
    intro anchor other isPlaced
    obtain ⟨rfl, _⟩ : anchor = [] ∧ pane = other := by
      simpa [Placement.start] using isPlaced
    exact List.mem_singleton.mpr rfl
  leaves := .refl _

theorem leaves_map
    (reflects : Reflects leftmost divided placed panes tree listed) :
    divided.leaves.map placed = tree.leaves.map some := by
  rw [← PaneTree.leaves_map, ← PaneTree.leaves_map, reflects.placing]

theorem placed_of_mem
    (reflects : Reflects leftmost divided placed panes tree listed)
    {anchor : Position} (member : anchor ∈ divided.leaves) :
    ∃ pane, placed anchor = some pane ∧ pane ∈ listed := by
  have isPlaced : placed anchor ∈ divided.leaves.map placed :=
    List.mem_map_of_mem member
  rw [reflects.leaves_map] at isPlaced
  obtain ⟨pane, inTree, same⟩ := List.mem_map.mp isPlaced
  exact ⟨pane, same.symm, reflects.leaves.mem_iff.mp inTree⟩

theorem placed_eq_none
    (reflects : Reflects leftmost divided placed panes tree listed)
    {anchor : Position} (isNew : anchor ∉ divided.leaves) :
    placed anchor = none := by
  cases isPlaced : placed anchor with
  | none => rfl
  | some pane => exact absurd (reflects.only anchor pane isPlaced) isNew

theorem placed_nodup
    (reflects : Reflects leftmost divided placed panes tree listed)
    (distinct : listed.Nodup) : (divided.leaves.map placed).Nodup := by
  rw [reflects.leaves_map]
  exact (reflects.leaves.nodup_iff.mpr distinct).map (Option.some_injective _)

theorem leaves_apply_perm
    (reflects : Reflects leftmost divided placed panes tree listed)
    (distinct : listed.Nodup) {division : Division}
    (isThere : division.target.anchor ∈ divided.leaves) :
    (division.apply divided).leaves.Perm
      (division.created :: divided.leaves) :=
  PaneTree.leaves_divide_perm isThere
    (List.Nodup.of_map placed (reflects.placed_nodup distinct))

/-- A division of the window is a division of the plan. -/
theorem divide
    (reflects : Reflects leftmost divided placed panes tree listed)
    (distinct : listed.Nodup) {division : Division} {target created : String}
    {listedAfter : List String} {built : PaneMap}
    (isThere : division.target.anchor ∈ divided.leaves)
    (isNew : division.created ∉ divided.leaves)
    (isPlaced : placed division.target.anchor = some target)
    (perm : listedAfter.Perm (created :: listed))
    (tracks : built.Tracks leftmost
      (Function.update placed division.created (some created))) :
    Reflects leftmost (division.apply divided)
      (Function.update placed division.created (some created)) built
      (tree.divide division.orientation target created) listedAfter := by
  have inTree : target ∈ tree.leaves := by
    obtain ⟨pane, same, member⟩ := reflects.placed_of_mem isThere
    rw [isPlaced] at same
    cases same
    exact reflects.leaves.mem_iff.mpr member
  have agree : ∀ anchor ∈ divided.leaves,
      Function.update placed division.created (some created) anchor =
        placed anchor := by
    intro anchor member
    rw [Function.update_of_ne (ne_of_mem_of_not_mem member isNew)]
  have apart : ∀ anchor ∈ divided.leaves,
      placed anchor = placed division.target.anchor →
        anchor = division.target.anchor := fun anchor member =>
    List.inj_on_of_nodup_map (reflects.placed_nodup distinct) member isThere
  refine ⟨tracks, ?_, ?_, ?_⟩
  · rw [Division.apply, PaneTree.map_divide agree apart, isPlaced,
      Function.update_self, ← reflects.placing]
    exact PaneTree.map_divide (fun _ _ => rfl) fun _ _ => Option.some.inj
  · intro anchor pane anchorPlaced
    rw [(reflects.leaves_apply_perm distinct isThere).mem_iff, List.mem_cons]
    by_cases same : anchor = division.created
    · exact .inl same
    · rw [Function.update_of_ne same] at anchorPlaced
      exact .inr (reflects.only anchor pane anchorPlaced)
  · exact ((PaneTree.leaves_divide_perm inTree
      (reflects.leaves.nodup_iff.mpr distinct)).trans
        (reflects.leaves.cons created)).trans perm.symm

end Reflects

/-! ### Sizes along a run -/

namespace Replay

/-- Every size that is asked for lets the split that asks resolve. -/
def SizesResolve (log : List Work) (events : List Event) : Prop :=
  ∀ entry ∈ log.zip (answersOf events),
    entry.1.resolves entry.2.1 entry.2.2 = true

instance (log : List Work) (events : List Event) :
    Decidable (SizesResolve log events) :=
  List.decidableBAll _ _

section SizesResolve

variable {α β State : Type} {server : Server State}
  {consent : List String → Option Value} {state next : State}
  {work : Work} {part : Part α} {continue_ : α → Part β}
  {later : α → State → List Work} {events : List Event} {value : α}

theorem commands_map_work (run : Run ReplayError α State) :
    run.commands.map (fun _ => work) =
      (answersOf run.events).map fun _ => work := by
  rw [Run.commands, answersOf, List.map_filterMap, List.map_filterMap]
  refine congrArg (List.filterMap · run.events) (funext fun event => ?_)
  cases event <;> rfl

theorem SizesResolve.first
    (sizes : SizesResolve
      (credited work (part.run server consent state) later)
      ((part >>= continue_).run server consent state).events) :
    ∀ entry ∈ answersOf (part.run server consent state).events,
      work.resolves entry.1 entry.2 = true := by
  intro entry member
  obtain ⟨rest, events⟩ := Run.andThen_events
    (part.run server consent state)
    fun value state => (continue_ value).run server consent state
  refine sizes (work, entry) ?_
  rw [Session.run_bind, events, credited, commands_map_work,
    answersOf_append, List.zip_append (by simp), ← List.map_prod_right_eq_zip]
  exact List.mem_append_left _ (List.mem_map.mpr ⟨entry, member, rfl⟩)

theorem SizesResolve.rest
    (returned : part.run server consent state =
      ⟨events, .returned value, next⟩)
    (sizes : SizesResolve
      (credited work (part.run server consent state) later)
      ((part >>= continue_).run server consent state).events) :
    SizesResolve (later value next)
      ((continue_ value).run server consent next).events := by
  intro entry member
  refine sizes entry ?_
  rw [Session.run_bind_of_returned returned, credited, commands_map_work,
    returned, answersOf_append, List.zip_append (by simp)]
  exact List.mem_append_right _ member

end SizesResolve

/-! ### Steps in order -/

section Steps

variable (request : ReplayRequest)

theorem executeSteps_append (panes : PaneMap) (first later : List Step) :
    executeSteps request panes (first ++ later) =
      executeSteps request panes first >>= fun panes =>
        executeSteps request panes later := by
  induction first generalizing panes with
  | nil => rfl
  | cons step steps induction =>
      simp only [List.cons_append, executeSteps, induction,
        Session.bind_assoc]

theorem stepLog_append {State : Type} (server : Server State)
    (consent : List String → Option Value)
    (after : PaneMap → State → List Work) (panes : PaneMap)
    (first later : List Step) (state : State) :
    stepLog request server consent after panes (first ++ later) state =
      stepLog request server consent
        (fun panes state =>
          stepLog request server consent after panes later state)
        panes first state := by
  induction first generalizing panes state with
  | nil => rfl
  | cons step steps induction =>
      simp only [List.cons_append, stepLog, induction]

theorem run_splitSteps {State : Type} {server : Server State}
    {window : State → List String} {valid : State → Prop}
    (isWindow : server.IsWindow window valid)
    {consent : List String → Option Value} {leftmost : Position}
    {divisions : List Division} {steps : List Step}
    (carries : CarryAll divisions steps) {divided : PaneTree Position}
    {placed : Placement} {panes : PaneMap} {tree : PaneTree String}
    {state : State} (isValid : valid state)
    (feasible : Division.Feasible leftmost
      {anchor | anchor ∈ divided.leaves} divisions)
    (reflects : Reflects leftmost divided placed panes tree (window state))
    {β : Type} {continue_ : PaneMap → Part β}
    {after : PaneMap → State → List Work}
    (sizes : SizesResolve
      (stepLog request server consent after panes steps state)
      ((executeSteps request panes steps >>= continue_).run server consent
        state).events) :
    ∃ events built placedAfter treeAfter next,
      (executeSteps request panes steps).run server consent state =
        ⟨events, .returned built, next⟩ ∧
      valid next ∧
      Reflects leftmost
        (divisions.foldl (fun tree division => division.apply tree) divided)
        placedAfter built treeAfter (window next) ∧
      (commandsOf events).foldl (observe server window) (tree, state) =
        (treeAfter, next) ∧
      SizesResolve (after built next)
        ((continue_ built).run server consent next).events := by
  induction carries generalizing divided placed panes tree state with
  | nil =>
      exact ⟨[], panes, placed, tree, state, rfl, isValid, reflects, rfl,
        sizes⟩
  | @cons division _ divisions steps carries _ induction =>
      obtain ⟨step, rfl, carries⟩ := carries
      obtain ⟨isThere, isNew, reaches, feasible⟩ := feasible
      obtain ⟨target, isPlaced, inWindow⟩ := reflects.placed_of_mem isThere
      have distinct := isWindow.distinct state isValid
      rw [executeSteps, Session.bind_assoc] at sizes
      obtain ⟨first, built, created, next, stepped, nextValid, _, made, tracks,
        observed⟩ := run_splitPane isWindow isValid carries reflects.tracks
          isPlaced reaches (reflects.placed_eq_none isNew) inWindow
          sizes.first
      have reflectsNext := reflects.divide distinct isThere isNew isPlaced
        made tracks
      -- What is known grows by the pane that was made.
      have known : insert division.created
          {anchor | anchor ∈ divided.leaves} =
            {anchor | anchor ∈ (division.apply divided).leaves} := by
        ext anchor
        exact ((reflects.leaves_apply_perm distinct isThere).mem_iff.trans
          List.mem_cons).symm
      rw [known] at feasible
      obtain ⟨rest, last, placedAfter, treeAfter, final, run, finalValid,
        reflectsAfter, observedRest, sizesRest⟩ := induction nextValid feasible
          reflectsNext (sizes.rest stepped)
      refine ⟨first ++ rest, last, placedAfter, treeAfter, final, ?_,
        finalValid, reflectsAfter, ?_, sizesRest⟩
      · rw [executeSteps, executeStep, Session.run_bind_of_returned stepped,
          run]
      · rw [commandsOf_append, List.foldl_append, observed, observedRest]

end Steps

end Replay

end PaneLayout
