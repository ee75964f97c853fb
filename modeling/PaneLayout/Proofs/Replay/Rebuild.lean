import PaneLayout.Proofs.Plan.Prepared
import PaneLayout.Proofs.Replay.Build
import PaneLayout.Proofs.Replay.Configure
import PaneLayout.Proofs.Replay.Occupy
import PaneLayout.Proofs.Replay.Progress
import PaneLayout.Proofs.Server.Scripted

/-!
# A replay rebuilds the layout

In a server that behaves like a window, the steps of an emission divide the
single pane of the acquired window into the unfolding of the layout, and every
terminal is found at its leaf.
-/

namespace PaneLayout

namespace Replay

section Rebuild

variable {State : Type} {server : Server State}
  {window : State → List String} {valid : State → Prop} {state : State}
  {request : ReplayRequest} {consent : List String → Option Value}
  {emission : Emission} {layout : Layout}

variable (request) (consent) in
/-- A focus step records the pane that it selects. -/
theorem run_focusStep (isWindow : server.IsWindow window valid)
    (isValid : valid state) {step : FocusStep} {focusId : String}
    (aimed : step.targetPaneId = some focusId) {panes : PaneMap}
    {leftmost : Position} {placed : Placement}
    (tracks : panes.Tracks leftmost placed)
    (shown : Shows leftmost placed focusId) :
    ∃ pane command answer built next,
      (executeSteps request panes [.focus step]).run server consent state =
        ⟨[.sent command answer], .returned built, next⟩ ∧
      command.division? = none ∧ (server.step command state).2 = next ∧
      valid next ∧ built.Tracks leftmost placed ∧
      built.get? focusId = some pane := by
  obtain ⟨position, rfl, reaches, pane, isPlaced⟩ := shown
  have resolved := tracks.resolve_eq isPlaced reaches
  have built := tracks.register_found isPlaced
  obtain ⟨output, next, answered, nextValid⟩ :=
    isWindow.step_eq isValid ["select-pane", "-t", pane]
  rw [executeSteps, executeStep, focusPane, aimed,
    targetPane_found position.paneId_ne_empty resolved, Session.ok_bind]
  dsimp only
  rw [Session.bind_assoc, Session.run_bind_of_returned
    (run_perform_ok consent answered _ step.id _)]
  refine ⟨pane, _, _, _, next, rfl, rfl, by rw [answered], nextValid, built, ?_⟩
  rw [built.get?_eq, PaneMap.register, Entries.get?_put_self]

/-- In a window of one pane every leaf of the layout is still to come. -/
theorem feasible_start (layout : Layout) :
    Division.Feasible (layout.leftmost [])
      {anchor | anchor ∈ (PaneTree.leaf ([] : Position)).leaves}
      (layout.divisions []) := by
  refine Layout.feasible_divisions _ [] layout (List.mem_singleton.mpr rfl)
    (fun rest index member => ?_) fun _ => le_rfl
  have empty := List.mem_singleton.mp member
  simp at empty

theorem shows_leaf {placed : Placement} (children : layout.HasChildren)
    (all : ∀ anchor ∈ (Layout.anchored (layout.unfold [])).leaves,
      ∃ pane, placed anchor = some pane) {id : String}
    (member : id ∈ leafIds (layout.unfold [])) :
    Shows (layout.leftmost []) placed id := by
  obtain ⟨leaf, isLeaf, rfl⟩ := List.mem_map.mp member
  refine ⟨leaf.1, rfl,
    Layout.leaves_reach [] layout children (fun _ => le_rfl) leaf isLeaf,
    all _ ?_⟩
  rw [Layout.anchored, PaneTree.leaves_map]
  exact List.mem_map_of_mem isLeaf

/-- The steps of an emission build its layout in a window of one pane. -/
theorem run_steps (isWindow : server.IsWindow window valid)
    (isValid : valid state) (builds : emission.Builds layout)
    {initial : String} (alone : window state = [initial])
    {after : PaneMap → State → List Work}
    (sizes : SizesResolve
      (stepLog request server consent after
        (PaneMap.empty.register emission.summary.initialPaneId initial)
        emission.steps state)
      ((executeSteps request
        (PaneMap.empty.register emission.summary.initialPaneId initial)
        emission.steps >>= conclude emission request).run server consent
          state).events) :
    ∃ events panes placed focusPane tree next,
      (executeSteps request
        (PaneMap.empty.register emission.summary.initialPaneId initial)
        emission.steps).run server consent state =
          ⟨events, .returned panes, next⟩ ∧
      valid next ∧ panes.Tracks (layout.leftmost []) placed ∧
      panes.get? emission.summary.focusPaneId = some focusPane ∧
      (commandsOf events).foldl (observe server window)
        (.leaf initial, state) = (tree, next) ∧
      tree.map some = (Layout.anchored (layout.unfold [])).map placed ∧
      tree.leaves.Nodup ∧
      ∀ anchor ∈ (Layout.anchored (layout.unfold [])).leaves,
        ∃ pane, placed anchor = some pane := by
  obtain ⟨splits, focus, steps, carries, aimed⟩ := builds.steps
  have nonblank : initial ≠ "" := isWindow.nonblank isValid (by simp [alone])
  have start : Reflects (layout.leftmost []) (.leaf []) (.start initial)
      (PaneMap.empty.register emission.summary.initialPaneId initial)
      (.leaf initial) (window state) := by
    rw [alone, builds.initial]
    exact .start (Layout.anchor_leftmost [] layout) nonblank
  rw [steps, executeSteps_append, stepLog_append, Session.bind_assoc] at sizes
  obtain ⟨first, panes, placed, tree, next, run, nextValid, reflects, seen,
    _⟩ := run_splitSteps request isWindow carries isValid
      (feasible_start layout) start sizes
  have whole := Layout.spread_divisions [] layout builds.children
  rw [Position.anchor_nil] at whole
  rw [Division.foldl_apply, PaneTree.bind, whole] at reflects
  have all : ∀ anchor ∈ (Layout.anchored (layout.unfold [])).leaves,
      ∃ pane, placed anchor = some pane := fun anchor member =>
    (reflects.placed_of_mem member).imp fun _ => And.left
  obtain ⟨focusPane, command, answer, built, last, focusRun, quiet, lastState,
    lastValid, tracks, focused⟩ := run_focusStep request consent isWindow
      nextValid aimed reflects.tracks
        (shows_leaf builds.children all builds.focus)
  refine ⟨first ++ [.sent command answer], built, placed, focusPane, tree,
    last, ?_, lastValid, tracks, focused, ?_, reflects.placing, ?_, all⟩
  · rw [steps, executeSteps_append, Session.run_bind_of_returned run,
      focusRun]
  · rw [commandsOf_append, List.foldl_append, seen, commandsOf_sent,
      List.foldl_cons, List.foldl_nil, observe_quiet server window quiet,
      lastState]
  · exact reflects.leaves.nodup_iff.mpr (isWindow.distinct next nextValid)

theorem configures_conclude {placed : Placement} {panes : PaneMap}
    {leftmost : Position} {focusPane : String}
    (focused : panes.get? emission.summary.focusPaneId = some focusPane)
    (tracks : panes.Tracks leftmost placed)
    (shown : ∀ terminal ∈ emission.terminals,
      Shows leftmost placed terminal.virtualPaneId) :
    Configures (conclude emission request panes) :=
  (configures_terminals request focused tracks shown).bind fun panes =>
    (configures_restoreFocus _ panes).bind fun _ => .done trivial

theorem asked_acquiring {part : Part String}
    {continue_ : String → Part ReplayResult} {allowed : List String → Prop}
    (agreed : ∀ panes ∈ ((part >>= continue_).run server consent
      state).questions, allowed panes) :
    ∀ panes, .asked panes ∈ (part.run server consent state).events →
      allowed panes := by
  intro panes asked
  refine agreed panes (List.mem_filterMap.mpr ⟨.asked panes, ?_, rfl⟩)
  obtain ⟨later, events⟩ := Run.andThen_events
    (part.run server consent state)
    fun value state => (continue_ value).run server consent state
  rw [Session.run_bind, events]
  exact List.mem_append_left later asked

/-- Once a window is acquired the sizes resolve along the steps. -/
theorem SizesResolve.acquired {mode : WindowMode} {initial : String}
    {events : List Event} {settled : State}
    (hasInitial : emission.summary.initialPaneId ≠ "")
    (named : WindowMode.ofName? request.mode = some mode)
    (returned : (acquire request emission.summary.initialPaneId mode).run server
      consent state = ⟨events, .returned initial, settled⟩)
    (sizes : SizesResolve (emission.workLog request server consent state)
      ((acquire request emission.summary.initialPaneId mode >>=
        afterAcquisition emission request).run server consent state).events) :
    SizesResolve
      (stepLog request server consent
        (configurationLog request server consent emission.terminals
          emission.summary.focusPaneId)
        (PaneMap.empty.register emission.summary.initialPaneId initial)
        emission.steps settled)
      ((executeSteps request
        (PaneMap.empty.register emission.summary.initialPaneId initial)
        emission.steps >>= conclude emission request).run server consent
          settled).events := by
  unfold Emission.workLog at sizes
  rw [if_neg hasInitial, named] at sizes
  have rest := sizes.rest returned
  rw [afterAcquisition_eq, Session.run_note] at rest
  exact rest

/-- Every leaf of the window is the pane that the id of its position stands
for. -/
theorem map_eq_lookup {tree : PaneTree String} {placed : Placement}
    {panes : PaneMap} (children : layout.HasChildren)
    (tracks : panes.Tracks (layout.leftmost []) placed)
    (all : ∀ anchor ∈ (Layout.anchored (layout.unfold [])).leaves,
      ∃ pane, placed anchor = some pane)
    (placing : tree.map some =
      (Layout.anchored (layout.unfold [])).map placed) :
    tree.map some =
      (layout.unfold []).map fun leaf => panes.lookup leaf.1.paneId := by
  rw [placing, Layout.anchored, PaneTree.map_map]
  refine PaneTree.map_congr fun leaf isLeaf => ?_
  have reaches :=
    Layout.leaves_reach [] layout children (fun _ => le_rfl) leaf isLeaf
  obtain ⟨pane, isPlaced⟩ := all leaf.1.anchor (by
    rw [Layout.anchored, PaneTree.leaves_map]
    exact List.mem_map_of_mem isLeaf)
  rw [tracks.lookup_eq isPlaced reaches]
  exact isPlaced

end Rebuild

def dividesNothing (site : CallSite) : Prop :=
  site.command.head? ≠ some "split-window"

theorem AcquiringCall.dividesNothing {request : ReplayRequest} {path : String}
    {site : CallSite} (call : AcquiringCall request path site) :
    dividesNothing site := by
  cases call <;> simp [Replay.dividesNothing, listingCall]

theorem TerminalCall.dividesNothing {terminal : EmittedTerminal}
    {pane : String} {site : CallSite} (call : TerminalCall terminal pane site) :
    dividesNothing site := by
  cases call <;> simp [Replay.dividesNothing, typingCall]

theorem FocusCall.dividesNothing {focusId : String} {site : CallSite}
    (call : FocusCall focusId site) : dividesNothing site := by
  cases call
  simp [Replay.dividesNothing]

theorem orderly_conclude (emission : Emission) (request : ReplayRequest)
    (panes : PaneMap) :
    Orderly dividesNothing silent (conclude emission request panes) := by
  refine (orderly_configureTerminals (fun _ _ _ => TerminalCall.dividesNothing)
    request _ _ panes).bind fun panes => ?_
  exact ((orderly_restoreFocus _ panes).mono (fun _ => FocusCall.dividesNothing)
    fun _ => id).bind fun _ => .done _

/-- An orderly part that divides nothing sends no command that does. -/
theorem Orderly.head?_ne {α State : Type} {part : Part α}
    {asks : List String → Prop}
    (orderly : Orderly dividesNothing asks part) (server : Server State)
    (consent : List String → Option Value) (state : State) :
    ∀ command ∈ commandsOf (part.run server consent state).events,
      command.head? ≠ some "split-window" :=
  orderly.forall_commands (fun _ divides => divides) server consent state

/-- What a terminal says itself is never reported as a mistake of the plan. -/
theorem FromTerminal.code_notMem {α : Type} {error : ReplayError}
    (fromTerminal : FromTerminal (.error error : Except ReplayError α))
    {failure : Failure} (problem : error.problem = .failure failure) :
    failure.code ∉ ["MISSING_TARGET", "INVALID_PANE", "INVALID_PLAN"] := by
  cases error with
  | unknownToken line error paneId =>
      cases problem
      simp
  | fault cause => cases problem
  | _ => cases fromTerminal

end Replay

open Replay

/-- A replay rebuilds the layout.  In a server that behaves like a window, and
with the consent that it asks for, the replay of an accepted preset never looks
for a pane in vain.  It acquires a window with one pane, and all its divisions
are those of the steps: they turn that pane into the unfolding of the layout,
where the id of every leaf stands for its pane.  The terminals are those of the
leaves from left to right. -/
theorem Prepared.replay_rebuilds_layout {State : Type} {source : String}
    {value : Value} {prepared : Prepared}
    (accepted : ofValue source value = .ok prepared) {server : Server State}
    {window : State → List String} {valid : State → Prop}
    (isWindow : server.IsWindow window valid) {request : ReplayRequest}
    {consent : List String → Option Value} {state : State}
    (isValid : valid state) {mode : WindowMode}
    (named : WindowMode.ofName? request.mode = some mode)
    (occupied : mode = .currentWindow →
      ownPane request server state ∈ window state)
    (agreed : ∀ panes ∈ ((prepared.emission.replay request).run server consent
      state).questions, consent panes = some (.bool true))
    (sizes : SizesResolve
      (prepared.emission.workLog request server consent state)
      ((prepared.emission.replay request).run server consent state).events) :
    let emission := prepared.emission
    let run := (emission.replay request).run server consent state
    let unfolding := prepared.preset.builtLayout.unfold []
    (∀ error failure, run.ending = .failed error →
      error.problem = .failure failure →
      failure.code ∉ ["MISSING_TARGET", "INVALID_PANE", "INVALID_PLAN"]) ∧
    ∃ acquiring initial settled stepping panes built configuring tree,
      (acquire request emission.summary.initialPaneId mode).run server consent
        state = ⟨acquiring, .returned initial, settled⟩ ∧
      window settled = [initial] ∧
      (executeSteps request
        (PaneMap.empty.register emission.summary.initialPaneId initial)
        emission.steps).run server consent settled =
          ⟨stepping, .returned panes, built⟩ ∧
      run.events = acquiring ++
        .noted emission.summary.initialPaneId initial ::
          (stepping ++ configuring) ∧
      (∀ command ∈ commandsOf (acquiring ++ configuring),
        command.head? ≠ some "split-window") ∧
      (commandsOf stepping).foldl (observe server window)
        (.leaf initial, settled) = (tree, built) ∧
      tree.map some =
        unfolding.map (fun leaf => panes.lookup leaf.1.paneId) ∧
      tree.leaves.Nodup ∧
      emission.terminals.map EmittedTerminal.virtualPaneId =
        unfolding.leaves.map fun leaf => leaf.1.paneId := by
  dsimp only
  have builds := builds_ofValue accepted
  generalize prepared.emission = emission at *
  generalize prepared.preset.builtLayout = layout at *
  have hasInitial : emission.summary.initialPaneId ≠ "" := by
    rw [builds.initial]
    exact Position.paneId_ne_empty _
  have replay : emission.replay request =
      acquire request emission.summary.initialPaneId mode >>=
        afterAcquisition emission request := by
    rw [Emission.replay_eq, if_neg hasInitial, named]
  rw [replay] at agreed sizes ⊢
  obtain ⟨acquiring, initial, settled, acquired, settledValid, alone⟩ :=
    run_acquire consent isWindow isValid occupied
      emission.summary.initialPaneId (asked_acquiring agreed)
  obtain ⟨stepping, panes, placed, focusPane, tree, built, stepped, builtValid,
    tracks, focused, observed, placing, distinct, all⟩ :=
      run_steps isWindow settledValid builds alone
        (sizes.acquired hasInitial named acquired)
  have run := Session.run_bind_of_returned acquired
    (afterAcquisition emission request)
  rw [afterAcquisition_eq, Session.run_note,
    Session.run_bind_of_returned stepped] at run
  rw [run]
  refine ⟨fun error failure failed problem => ?_, acquiring, initial, settled,
    stepping, panes, built,
    ((conclude emission request panes).run server consent built).events, tree,
    acquired, alone, stepped, rfl, ?_, observed,
    map_eq_lookup builds.children tracks all placing, distinct,
    builds.terminals⟩
  · -- Once the steps are carried out only a terminal itself can go wrong.
    have shown : ∀ terminal ∈ emission.terminals,
        Shows (layout.leftmost []) placed terminal.virtualPaneId := by
      intro terminal member
      refine shows_leaf builds.children all ?_
      rw [← builds.terminals]
      exact List.mem_map_of_mem member
    exact ((configures_conclude focused tracks shown).of_failed isWindow
      builtValid failed).code_notMem problem
  · rw [commandsOf_append, List.forall_mem_append]
    refine ⟨?_, (orderly_conclude emission request panes).head?_ne server
      consent built⟩
    have quiet := ((orderly_acquire request emission.summary.initialPaneId
      mode).mono (fun _ => AcquiringCall.dividesNothing)
        fun _ => id).head?_ne server consent state
    rw [acquired] at quiet
    exact quiet

/-- A split within a split, one of whose sizes is found out on the way. -/
def Prepared.splitInSplit : Value :=
  .mapping [(.text "layout", .mapping [
    (.text "type", .text "vertical"),
    (.text "ratio", .list [.text "30c", .int 1]),
    (.text "panes", .list [
      .mapping [(.text "name", .text "shell")],
      .mapping [
        (.text "type", .text "horizontal"),
        (.text "ratio", .list [.int 1, .int 3]),
        (.text "panes", .list [
          .mapping [(.text "command", .text "top")],
          .mapping [(.text "name", .text "log")]])]])])]

theorem Prepared.replay_rebuilds_splitInSplit :
    let server := ScriptedWindow.server {}
    let start : ScriptedWindow := { panes := ["%0", "%1"], nextNumber := 2 }
    let request : ReplayRequest :=
      { mode := WindowMode.currentWindow.name, asks := true }
    let consent : List String → Option Value := fun _ => some (.bool true)
    ∃ prepared acquiring initial settled stepping built configuring tree,
      ofValue "local" splitInSplit = .ok prepared ∧
      ((prepared.emission.replay request).run server consent start).events =
        acquiring ++ .noted prepared.emission.summary.initialPaneId initial ::
          (stepping ++ configuring) ∧
      settled.panes = [initial] ∧
      (commandsOf stepping).foldl (observe server ScriptedWindow.panes)
        (.leaf initial, settled) = (tree, built) ∧
      tree.map (fun _ => ()) = .divided .vertical (.leaf ())
        (.divided .horizontal (.leaf ()) (.leaf ())) := by
  intro server start request consent
  have numbered : start.IsNumbered := ⟨by decide, 2, rfl, by decide⟩
  have isWindow : server.IsWindow ScriptedWindow.panes
      ScriptedWindow.IsNumbered :=
    ScriptedWindow.isWindow_plain ⟨rfl, rfl, rfl, rfl, rfl⟩
  have named : WindowMode.ofName? request.mode = some .currentWindow := rfl
  have evaluated : (ofValue "local" splitInSplit).toOption.any (fun prepared =>
      decide (SizesResolve
          (prepared.emission.workLog request server consent start)
          ((prepared.emission.replay request).run server consent start).events ∧
        (prepared.preset.builtLayout.unfold []).map (fun _ => ()) =
          .divided .vertical (.leaf ())
            (.divided .horizontal (.leaf ()) (.leaf ())))) = true := by
    decide +kernel
  cases accepted : ofValue "local" splitInSplit with
  | error problem =>
      rw [accepted] at evaluated
      cases evaluated
  | ok prepared =>
      rw [accepted] at evaluated
      obtain ⟨sizes, shape⟩ := of_decide_eq_true evaluated
      obtain ⟨_, acquiring, initial, settled, stepping, panes, built,
        configuring, tree, _, alone, _, events, _, observed, placing, _⟩ :=
          replay_rebuilds_layout accepted isWindow numbered named
            (fun _ => by decide) (fun _ _ => rfl) sizes
      refine ⟨prepared, acquiring, initial, settled, stepping, built,
        configuring, tree, rfl, events, alone, observed, ?_⟩
      have forget := congrArg (PaneTree.map fun _ => ()) placing
      rw [PaneTree.map_map, PaneTree.map_map] at forget
      exact forget.trans shape

end PaneLayout
