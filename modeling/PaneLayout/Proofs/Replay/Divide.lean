import PaneLayout.Proofs.Plan.Emitted
import PaneLayout.Proofs.Plan.Tracking
import PaneLayout.Proofs.Replay.Size
import PaneLayout.Proofs.Replay.Window
import PaneLayout.Proofs.Replay.Work

/-!
# Split steps in a window

A split step that carries out a division finds the pane of its target, divides
it, and records the pane that was made.  The tree of the window is divided in
the same way.
-/

namespace PaneLayout

/-! ### Sizes that resolve -/

/-- The answer to a size query gives both sides of the split a size. -/
def DynamicSizing.fits (sizing : DynamicSizing) (output : String) : Bool :=
  match Replay.paneCells output with
  | .ok cells =>
      match sizing.resolve cells with
      | .ok split => (wholeText split.created).isOk
      | .error _ => false
  | .error _ => false

namespace Replay

/-- If the command asks for the size of a split, the answer lets it resolve. -/
def Work.resolves : Work → Command → Answer → Bool
  | .execute (.split step), "display-message" :: _, .ok output =>
      match step.sizing with
      | some (.dynamic sizing) => sizing.fits output
      | _ => true
  | _, _, _ => true

end Replay

def Event.answered? : Event → Option (Command × Answer)
  | .sent command answer => some (command, answer)
  | _ => none

def answersOf (events : List Event) : List (Command × Answer) :=
  events.filterMap Event.answered?

theorem answersOf_append (first later : List Event) :
    answersOf (first ++ later) = answersOf first ++ answersOf later :=
  List.filterMap_append

namespace Replay

theorem sizeText_ok {sizing : DynamicSizing} {output : String}
    (fits : sizing.fits output = true) (request : ReplayRequest)
    (stepId : String) :
    ∃ size, sizeText request stepId sizing output = .ok size := by
  unfold DynamicSizing.fits at fits
  unfold sizeText
  cases read : paneCells output with
  | error cause =>
      rw [read] at fits
      cases fits
  | ok cells =>
      rw [read] at fits
      dsimp only [resolvedSize] at fits ⊢
      cases resolved : sizing.resolve cells with
      | error error =>
          rw [resolved] at fits
          cases fits
      | ok split =>
          rw [resolved] at fits
          dsimp only at fits ⊢
          cases written : wholeText split.created with
          | ok size => exact ⟨size, rfl⟩
          | error cause =>
              rw [written] at fits
              cases fits

/-- Rounding keeps a percentage that a split can be given. -/
theorem clampPercentage_whole {percentage : Int}
    (givable : Sizing.IsGivable (.percent percentage)) :
    (Number.whole percentage).clampPercentage = .ok percentage := by
  have all : ∀ index < 99,
      (Number.whole (index + 1 : Nat)).clampPercentage =
        .ok ((index + 1 : Nat) : Int) := by
    decide +kernel
  obtain ⟨least, greatest⟩ := givable
  unfold leastPercentage at least
  unfold greatestPercentage at greatest
  obtain ⟨index, rfl⟩ : ∃ index : Nat, percentage = (index + 1 : Nat) :=
    ⟨(percentage - 1).toNat, by omega⟩
  exact all index (by omega)

section Run

variable {State : Type} {server : Server State}
  {window : State → List String} {valid : State → Prop} {state : State}
  {request : ReplayRequest} {consent : List String → Option Value}
  {division : Division} {step : SplitStep}

/-- The command of a split step is found with queries only. -/
theorem run_splitCommand (isWindow : server.IsWindow window valid)
    (isValid : valid state) (carries : Carries division step)
    {target : String}
    (resolves : ∀ entry ∈ answersOf ((splitCommand request step target).run
      server consent state).events,
      Work.resolves (.execute (.split step)) entry.1 entry.2 = true) :
    ∃ queries option size next,
      (splitCommand request step target).run server consent state =
        ⟨queries, .returned (.dividing division.orientation target option size),
          next⟩ ∧
      valid next ∧ window next = window state ∧
      ∀ command ∈ commandsOf queries, command.IsQuery := by
  obtain ⟨sizing, hasSizing, givable⟩ := carries.sizing
  unfold splitCommand at resolves ⊢
  rw [carries.orientation, hasSizing] at resolves ⊢
  cases sizing with
  | percent percentage =>
      dsimp only
      rw [clampPercentage_whole givable]
      exact ⟨[], "-p", toString percentage, state, rfl, isValid, rfl, nofun⟩
  | dynamic sizing =>
      dsimp only at resolves ⊢
      rw [dynamicSize_eq, Session.bind_assoc] at resolves ⊢
      obtain ⟨output, next, answered, nextValid⟩ :=
        isWindow.step_eq isValid (sizeQuery division.orientation target)
      have asked := run_perform_ok consent answered
        "Failed to resolve tmux pane size" step.id []
      rw [Session.run_bind_of_returned asked] at resolves ⊢
      have fits := resolves _ (List.mem_filterMap.mpr
        ⟨_, List.mem_cons_self, rfl⟩)
      simp only [Work.resolves, sizeQuery, hasSizing] at fits
      obtain ⟨size, written⟩ := sizeText_ok fits request step.id
      rw [written]
      refine ⟨_, "-l", size, next, rfl, nextValid, ?_, ?_⟩
      · have same := isWindow.looks (sizeQuery division.orientation target)
          state isValid (.inl rfl)
        rwa [answered] at same
      · intro command member
        rw [List.mem_singleton.mp member]
        exact .inl rfl

theorem mem_answersOf_bind {α β : Type} {part : Part α}
    {entry : Command × Answer}
    (member : entry ∈ answersOf (part.run server consent state).events)
    (continue_ : α → Part β) :
    entry ∈ answersOf
      ((part >>= continue_).run server consent state).events := by
  obtain ⟨later, events⟩ := Run.andThen_events
    (part.run server consent state)
    fun value state => (continue_ value).run server consent state
  rw [Session.run_bind, events, answersOf_append]
  exact List.mem_append_left _ member

theorem targetPane_found {role : TargetRole} {stepId target found : String}
    {panes built : PaneMap} (nonempty : target ≠ "")
    (resolved : panes.resolve target = (some found, built)) :
    targetPane role stepId (some target) panes =
      (.done (.ok (found, built)) : Part (String × PaneMap)) := by
  unfold targetPane
  split
  · rename_i none
    cases none
  · rename_i empty
    exact absurd (Option.some.inj empty) nonempty
  · rename_i same
    cases same
    rw [resolved]
    rfl

/-- A division, and the listing after it, show one pane more. -/
theorem run_dividing (isWindow : server.IsWindow window valid)
    (isValid : valid state) {target : String}
    (inWindow : target ∈ window state) (orientation : Orientation)
    (option size path : String) :
    ∃ output divided shown last created,
      server.step (.dividing orientation target option size) state =
        (.ok output, divided) ∧
      (listPanes path).run server consent divided =
        ⟨[.sent .listing (.ok shown)], .returned (window divided), last⟩ ∧
      valid last ∧ window last = window divided ∧ created ∉ window state ∧
      (window divided).Perm (created :: window state) ∧
      ∀ tree, [Command.dividing orientation target option size, .listing].foldl
        (observe server window) (tree, state) =
          (tree.divide orientation target created, last) := by
  obtain ⟨output, divided, answered, dividedValid⟩ :=
    isWindow.step_eq isValid (.dividing orientation target option size)
  obtain ⟨created, isNew, made⟩ :=
    isWindow.divides orientation target option size state isValid inWindow
  obtain ⟨shown, last, listed, lastValid, lastWindow, lastSeen⟩ :=
    run_listing isWindow dividedValid consent path
  have seen := observe_dividing server window isNew made
  rw [answered] at made seen
  refine ⟨output, divided, shown, last, created, answered, listed, lastValid,
    lastWindow, isNew, made, fun tree => ?_⟩
  rw [List.foldl_cons, List.foldl_cons, List.foldl_nil, seen, lastSeen]

/-- A split step divides the pane of its target and records what was made. -/
theorem run_splitPane (isWindow : server.IsWindow window valid)
    (isValid : valid state) (carries : Carries division step)
    {panes : PaneMap} {leftmost : Position} {placed : Placement}
    {target : String} (tracks : panes.Tracks leftmost placed)
    (isPlaced : placed division.target.anchor = some target)
    (reaches : leftmost.Reaches division.target)
    (isNew : placed division.created = none)
    (inWindow : target ∈ window state)
    (resolves : ∀ entry ∈ answersOf ((splitPane request step panes).run
      server consent state).events,
      Work.resolves (.execute (.split step)) entry.1 entry.2 = true) :
    ∃ events built created next,
      (splitPane request step panes).run server consent state =
        ⟨events, .returned built, next⟩ ∧
      valid next ∧ created ∉ window state ∧
      (window next).Perm (created :: window state) ∧
      built.Tracks leftmost
        (Function.update placed division.created (some created)) ∧
      ∀ tree, (commandsOf events).foldl (observe server window) (tree, state) =
        (tree.divide division.orientation target created, next) := by
  unfold splitPane at resolves ⊢
  rw [carries.target, targetPane_found division.target.paneId_ne_empty
    (tracks.resolve_eq isPlaced reaches), Session.ok_bind] at resolves ⊢
  dsimp only at resolves ⊢
  obtain ⟨shown, first, listed, firstValid, firstWindow, firstSeen⟩ :=
    run_listing isWindow isValid consent step.id
  rw [Session.run_bind_of_returned listed] at resolves ⊢
  obtain ⟨queries, option, size, second, asked, secondValid, secondWindow,
    onlyQueries⟩ := run_splitCommand isWindow firstValid carries
      fun entry member => resolves entry
        (List.mem_cons_of_mem _ (mem_answersOf_bind member _))
  rw [Session.run_bind_of_returned asked]
  obtain ⟨output, third, shownAfter, last, created, answered, listedAfter,
    lastValid, lastWindow, isNewPane, made, divided⟩ :=
      run_dividing isWindow secondValid (by rwa [secondWindow, firstWindow])
        division.orientation option size step.id
  rw [Session.run_bind_of_returned (run_perform_ok consent answered _ _ _),
    Session.run_bind_of_returned listedAfter]
  have quietly := foldl_observe_of_quiet server window fun command member =>
    Command.division?_query (onlyQueries command member)
  have afterQueries : second = server.after first (commandsOf queries) := by
    have same := (splitCommand request step target).run_state server consent
      first
    rwa [asked] at same
  rw [secondWindow, firstWindow] at isNewPane made
  rw [find?_created isNewPane made, carries.created]
  dsimp only
  split
  · rename_i none
    cases none
  · rename_i empty
    exact absurd (Option.some.inj empty) division.created.paneId_ne_empty
  · rename_i virtualId same
    cases same
    have notRoot : division.created ≠ [] := by simp [Division.created]
    have nonblank := isWindow.nonblank lastValid
      (lastWindow.symm ▸ made.mem_iff.mpr List.mem_cons_self)
    refine ⟨_, _, created, last, rfl, lastValid, isNewPane, ?_,
      (tracks.register_found isPlaced).register_new
        division.created_isAnchor notRoot isNew nonblank, fun tree => ?_⟩
    · rw [lastWindow]
      exact made
    · rw [commandsOf_append, commandsOf_append, commandsOf_sent,
        List.foldl_append, List.foldl_append, List.foldl_cons, List.foldl_nil,
        firstSeen, quietly, ← afterQueries]
      exact divided tree

end Run

end Replay

end PaneLayout
