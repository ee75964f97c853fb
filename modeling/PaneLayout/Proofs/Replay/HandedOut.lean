import PaneLayout.Proofs.Replay.Rebuild
import PaneLayout.Proofs.Replay.Idle
import PaneLayout.Proofs.Replay.Outcome

/-!
# Panes that a rehearsal hands out

A dry run in the current window starts in its own pane, and each split hands out
the pane with the next number.  As long as that pane can be named and is not
listed already, it is recorded for the position that it is made for, and the
terminals come to stand in the panes that were handed out and in the own one.
Otherwise the split fails, and so does the run.
-/

namespace PaneLayout

/-! ### What divisions make -/

namespace Division

/-- Divisions add the panes that they create to the leaves. -/
theorem leaves_foldl_apply {leftmost : Position} {divisions : List Division}
    {divided : PaneTree Position} (distinct : divided.leaves.Nodup)
    (feasible : Feasible leftmost {anchor | anchor ∈ divided.leaves}
      divisions) :
    let after :=
      divisions.foldl (fun tree division => division.apply tree) divided
    after.leaves.Nodup ∧
      after.leaves.Perm (divisions.map created ++ divided.leaves) := by
  induction divisions generalizing divided with
  | nil => exact ⟨distinct, .refl _⟩
  | cons division divisions induction =>
      obtain ⟨isThere, isNew, _, feasible⟩ := feasible
      have perm : (division.apply divided).leaves.Perm
          (division.created :: divided.leaves) :=
        PaneTree.leaves_divide_perm isThere distinct
      have known : insert division.created
          {anchor | anchor ∈ divided.leaves} =
            {anchor | anchor ∈ (division.apply divided).leaves} := by
        ext anchor
        exact (perm.mem_iff.trans List.mem_cons).symm
      rw [known] at feasible
      have next : (division.apply divided).leaves.Nodup :=
        perm.nodup_iff.mpr (List.nodup_cons.mpr ⟨isNew, distinct⟩)
      obtain ⟨nodup, leaves⟩ := induction next feasible
      refine ⟨nodup, leaves.trans ?_⟩
      rw [List.map_cons, List.cons_append]
      exact (perm.append_left _).trans List.perm_middle

end Division

/-- The leaves of a layout stand in the root pane and in those that its
divisions make. -/
theorem Layout.leaves_anchored {layout : Layout}
    (children : layout.HasChildren) :
    (anchored (layout.unfold [])).leaves.Nodup ∧
      (anchored (layout.unfold [])).leaves.Perm
        ((layout.divisions []).map Division.created ++ [[]]) := by
  have whole := spread_divisions [] layout children
  rw [Position.anchor_nil] at whole
  rw [← whole]
  exact Division.leaves_foldl_apply (List.nodup_singleton _)
    (Replay.feasible_start layout)

namespace Placement

/-- The panes after divisions whose panes are numbered from a number on. -/
def numbered (placed : Placement) (next : Nat) : List Division → Placement
  | [] => placed
  | division :: divisions =>
      numbered
        (Function.update placed division.created (some (paneName next)))
        (next + 1) divisions

variable {placed : Placement} {next : Nat} {leftmost : Position}
  {known : Set Position} {divisions : List Division}

theorem numbered_of_mem
    (feasible : Division.Feasible leftmost known divisions)
    {anchor : Position} (isKnown : anchor ∈ known) :
    numbered placed next divisions anchor = placed anchor := by
  induction divisions generalizing placed next known with
  | nil => rfl
  | cons division divisions induction =>
      obtain ⟨_, isNew, _, feasible⟩ := feasible
      rw [numbered, induction feasible (Set.mem_insert_of_mem _ isKnown),
        Function.update_of_ne (ne_of_mem_of_not_mem isKnown isNew)]

theorem map_numbered (feasible : Division.Feasible leftmost known divisions) :
    (divisions.map Division.created).map (numbered placed next divisions) =
      ((List.range divisions.length).map fun index =>
        some (paneName (next + index))) := by
  induction divisions generalizing placed next known with
  | nil => rfl
  | cons division divisions induction =>
      obtain ⟨_, _, _, feasible⟩ := feasible
      rw [List.map_cons, List.map_cons, numbered,
        numbered_of_mem feasible (Set.mem_insert _ _), Function.update_self,
        induction feasible, List.length_cons, List.range_succ_eq_map,
        List.map_cons, List.map_map]
      refine congrArg (_ :: ·) (List.map_congr_left fun index _ => ?_)
      rw [Function.comp_apply, Nat.succ_eq_add_one, Nat.add_right_comm,
        Nat.add_assoc]

theorem eq_none_of_not_mem
    (isKnown : ∀ anchor, anchor ∈ known ↔ ∃ pane, placed anchor = some pane)
    {anchor : Position} (isNew : anchor ∉ known) : placed anchor = none :=
  Option.eq_none_iff_forall_not_mem.mpr fun pane member =>
    isNew ((isKnown anchor).mpr ⟨pane, member⟩)

/-- Another anchor is known once a pane is made for it. -/
theorem mem_insert_iff_placed
    (isKnown : ∀ anchor, anchor ∈ known ↔ ∃ pane, placed anchor = some pane)
    {created : Position} {pane : String} (anchor : Position) :
    anchor ∈ insert created known ↔
      ∃ other, Function.update placed created (some pane) anchor =
        some other := by
  by_cases same : anchor = created
  · rw [same, Function.update_self]
    simp
  · rw [Function.update_of_ne same, ← isKnown, Set.mem_insert_iff,
      or_iff_right same]

end Placement

namespace Replay

section Rehearsed

variable {request : ReplayRequest} (consent : List String → Option Value)
  {rehearsal : Rehearsal} {leftmost : Position} {placed : Placement}
  {panes : PaneMap}

/-! ### Splits -/

/-- A rehearsal leaves open the sizes that it is asked for. -/
theorem idles_splitCommand (dry : request.isDryRun = true)
    {division : Division} {step : SplitStep} (carries : Carries division step)
    (target : String) :
    ∃ option size, Idles consent (splitCommand request step target)
      (.dividing division.orientation target option size) := by
  obtain ⟨sizing, hasSizing, givable⟩ := carries.sizing
  unfold splitCommand
  rw [carries.orientation, hasSizing]
  cases sizing with
  | percent percentage =>
      dsimp only
      rw [clampPercentage_whole givable]
      exact ⟨"-p", toString percentage, idles_ok _⟩
  | dynamic sizing =>
      dsimp only
      have placeholder : sizeText request step.id sizing "" =
          .ok dynamicSizePlaceholder := by
        have unread : paneCells "" = .ok none := by decide
        simp only [sizeText, unread, resolvedSize, DynamicSizing.resolve, dry,
          if_true]
      refine ⟨"-l", dynamicSizePlaceholder, Idles.bind ?_ (idles_ok _)⟩
      rw [dynamicSize_eq]
      refine (idles_perform (Rehearsal.step_sizeQuery · _ target) _ _ _).bind ?_
      rw [placeholder]
      exact idles_ok _

theorem recordCreated_of_found {step : SplitStep} {virtualId created : String}
    {before listed : List String}
    (isCreated : step.createdPaneId = some virtualId)
    (nonempty : virtualId ≠ "")
    (found : (listed.find? fun pane => !before.contains pane) = some created) :
    recordCreated step panes before listed =
      register panes virtualId created := by
  unfold recordCreated
  rw [found, isCreated]
  dsimp only
  split
  · next isNone => cases isNone
  · next isEmpty => exact absurd (Option.some.inj isEmpty) nonempty
  · next same =>
    cases same
    rfl

variable (rehearsal) in
/-- A split comes to its command. -/
theorem exists_run_splitPane (dry : request.isDryRun = true)
    {division : Division} {step : SplitStep} (carries : Carries division step)
    {target : String} (tracks : panes.Tracks leftmost placed)
    (isPlaced : placed division.target.anchor = some target)
    (reaches : leftmost.Reaches division.target) :
    ∃ events option size, (splitPane request step panes).run Rehearsal.server
      consent rehearsal =
        let command := Command.dividing division.orientation target option size
        let last := (perform command ("Failed to execute split step " ++ step.id)
          step.id (commandDetails command) >>= fun _ =>
            listPanes step.id >>= fun listed =>
              recordCreated step (panes.register division.target.paneId target)
                rehearsal.listed listed).run Rehearsal.server consent rehearsal
        ⟨events ++ last.events, last.ending, last.state⟩ := by
  obtain ⟨option, size, chosen⟩ :=
    idles_splitCommand consent dry carries target
  obtain ⟨queries, ran⟩ := chosen rehearsal
  unfold splitPane
  rw [carries.target, targetPane_found division.target.paneId_ne_empty
    (tracks.resolve_eq isPlaced reaches), Session.ok_bind]
  dsimp only
  rw [Session.run_bind_of_returned
    (run_listPanes_ok consent step.id rehearsal.step_listing),
    Session.run_bind_of_returned ran]
  refine ⟨.sent .listing (.ok ("\n".intercalate rehearsal.panes)) :: queries,
    option, size, ?_⟩
  simp only [List.cons_append, List.nil_append]
  rfl

/-- If the next pane can be named, a split adds it to the rehearsal, and what is
recorded is all that is left to do. -/
theorem exists_run_divided (named : rehearsal.CanName)
    (dry : request.isDryRun = true)
    {division : Division} {step : SplitStep} (carries : Carries division step)
    {target : String} (tracks : panes.Tracks leftmost placed)
    (isPlaced : placed division.target.anchor = some target)
    (reaches : leftmost.Reaches division.target) :
    ∃ events, (splitPane request step panes).run Rehearsal.server consent
      rehearsal =
        let last := (recordCreated step
          (panes.register division.target.paneId target) rehearsal.listed
          rehearsal.divided.listed).run Rehearsal.server consent
            rehearsal.divided
        ⟨events ++ last.events, last.ending, last.state⟩ := by
  obtain ⟨events, option, size, ran⟩ :=
    exists_run_splitPane consent rehearsal dry carries tracks isPlaced reaches
  dsimp only at ran
  rw [Session.run_bind_of_returned (run_perform_ok consent
      (Rehearsal.step_dividing named _ target option size) _ _ _),
    Session.run_bind_of_returned
      (run_listPanes_ok consent step.id rehearsal.divided.step_listing)] at ran
  rw [ran]
  refine ⟨events ++ [
      .sent (.dividing division.orientation target option size) (.ok ""),
      .sent .listing (.ok ("\n".intercalate rehearsal.divided.panes))], ?_⟩
  simp only [List.cons_append, List.nil_append, List.append_assoc]
  rfl

/-- A pane whose name was not listed before is recorded. -/
theorem run_splitPane_fresh (named : rehearsal.CanName)
    (dry : request.isDryRun = true)
    {division : Division} {step : SplitStep} (carries : Carries division step)
    {target : String} (tracks : panes.Tracks leftmost placed)
    (isPlaced : placed division.target.anchor = some target)
    (reaches : leftmost.Reaches division.target)
    (isNew : placed division.created = none)
    (isFresh : paneName rehearsal.nextNumber ∉ rehearsal.listed) :
    ∃ events built,
      (splitPane request step panes).run Rehearsal.server consent rehearsal =
        ⟨events, .returned built, rehearsal.divided⟩ ∧
      built.Tracks leftmost (Function.update placed division.created
        (some (paneName rehearsal.nextNumber))) := by
  obtain ⟨events, ran⟩ :=
    exists_run_divided consent named dry carries tracks isPlaced reaches
  have notRoot : division.created ≠ [] := by simp [Division.created]
  have found := rehearsal.find?_divided
  rw [if_neg isFresh] at found
  rw [recordCreated_of_found carries.created division.created.paneId_ne_empty
    found] at ran
  exact ⟨_, _, ran, (tracks.register_found isPlaced).register_new
    division.created_isAnchor notRoot isNew (paneName_ne_empty _)⟩

/-- If the next pane cannot be named, or its name was listed before, a split
fails. -/
theorem run_splitPane_stale (dry : request.isDryRun = true)
    {division : Division} {step : SplitStep} (carries : Carries division step)
    {target : String} (tracks : panes.Tracks leftmost placed)
    (isPlaced : placed division.target.anchor = some target)
    (reaches : leftmost.Reaches division.target)
    (stale : ¬ (rehearsal.CanName ∧
      paneName rehearsal.nextNumber ∉ rehearsal.listed)) :
    ∃ events error next,
      (splitPane request step panes).run Rehearsal.server consent rehearsal =
        ⟨events, .failed error, next⟩ := by
  by_cases named : rehearsal.CanName
  · obtain ⟨events, ran⟩ :=
      exists_run_divided consent named dry carries tracks isPlaced reaches
    have isListed : paneName rehearsal.nextNumber ∈ rehearsal.listed :=
      not_not.mp fun absent => stale ⟨named, absent⟩
    rw [recordCreated, rehearsal.find?_divided, if_pos isListed] at ran
    exact ⟨_, _, _, ran⟩
  · obtain ⟨events, option, size, ran⟩ := exists_run_splitPane consent rehearsal
      dry carries tracks isPlaced reaches
    dsimp only at ran
    rw [Session.run_bind_of_failed (run_perform_error consent
      (Rehearsal.step_dividing_unnamed named _ target option size) _ _ _)] at ran
    exact ⟨_, _, _, ran⟩

/-! ### All splits -/

/-- As long as the panes that are handed out can be named and are not listed
already, each is recorded for the position that it is made for. -/
theorem run_splitSteps_fresh (dry : request.isDryRun = true)
    {divisions : List Division} {steps : List Step}
    (carries : CarryAll divisions steps) {known : Set Position}
    (feasible : Division.Feasible leftmost known divisions)
    (isKnown : ∀ anchor, anchor ∈ known ↔ ∃ pane, placed anchor = some pane)
    (tracks : panes.Tracks leftmost placed)
    (fresh : rehearsal.FreshFor divisions.length) :
    ∃ events built next,
      (executeSteps request panes steps).run Rehearsal.server consent
        rehearsal = ⟨events, .returned built, next⟩ ∧
      built.Tracks leftmost
        (placed.numbered rehearsal.nextNumber divisions) := by
  induction carries generalizing placed panes rehearsal known with
  | nil => exact ⟨[], panes, rehearsal, rfl, tracks⟩
  | @cons division _ divisions steps carries _ induction =>
      obtain ⟨step, rfl, carries⟩ := carries
      obtain ⟨isThere, isNew, reaches, feasible⟩ := feasible
      obtain ⟨target, isPlaced⟩ := (isKnown _).mp isThere
      have unplaced := Placement.eq_none_of_not_mem isKnown isNew
      obtain ⟨⟨named, isFresh⟩, fresh⟩ := (rehearsal.freshFor_succ _).mp fresh
      obtain ⟨first, made, ran, tracks⟩ := run_splitPane_fresh
        consent named dry carries tracks isPlaced reaches unplaced isFresh
      obtain ⟨later, built, next, ranLater, tracks⟩ :=
        induction feasible (Placement.mem_insert_iff_placed isKnown) tracks
          fresh
      refine ⟨first ++ later, built, next, ?_, tracks⟩
      rw [executeSteps, executeStep, Session.run_bind_of_returned ran, ranLater]

/-- If one of the panes that are needed cannot be named or is listed already, the
splits do not come to their end. -/
theorem run_splitSteps_stale (dry : request.isDryRun = true)
    {divisions : List Division} {steps : List Step}
    (carries : CarryAll divisions steps) {known : Set Position}
    (feasible : Division.Feasible leftmost known divisions)
    (isKnown : ∀ anchor, anchor ∈ known ↔ ∃ pane, placed anchor = some pane)
    (tracks : panes.Tracks leftmost placed)
    (stale : ¬ rehearsal.FreshFor divisions.length) :
    ∃ events error next,
      (executeSteps request panes steps).run Rehearsal.server consent
        rehearsal = ⟨events, .failed error, next⟩ := by
  induction carries generalizing placed panes rehearsal known with
  | nil => exact absurd (fun _ below => absurd below (Nat.not_lt_zero _)) stale
  | @cons division _ divisions steps carries _ induction =>
      obtain ⟨step, rfl, carries⟩ := carries
      obtain ⟨isThere, isNew, reaches, feasible⟩ := feasible
      obtain ⟨target, isPlaced⟩ := (isKnown _).mp isThere
      have unplaced := Placement.eq_none_of_not_mem isKnown isNew
      rw [executeSteps, executeStep]
      by_cases isFresh : rehearsal.CanName ∧
          paneName rehearsal.nextNumber ∉ rehearsal.listed
      · obtain ⟨first, made, ran, tracks⟩ := run_splitPane_fresh consent
          isFresh.1 dry carries tracks isPlaced reaches unplaced isFresh.2
        have staleLater : ¬ rehearsal.divided.FreshFor divisions.length :=
          fun fresh => stale ((rehearsal.freshFor_succ _).mpr ⟨isFresh, fresh⟩)
        obtain ⟨later, error, next, ranLater⟩ :=
          induction feasible (Placement.mem_insert_iff_placed isKnown) tracks
            staleLater
        rw [Session.run_bind_of_returned ran, ranLater]
        exact ⟨_, _, _, rfl⟩
      · obtain ⟨first, error, next, ran⟩ := run_splitPane_stale consent dry
          carries tracks isPlaced reaches isFresh
        rw [Session.run_bind_of_failed ran]
        exact ⟨_, _, _, rfl⟩

variable (request) in
/-- A focus step records the pane that it selects. -/
theorem exists_idles_focusStep {step : FocusStep} {focusId : String}
    (aimed : step.targetPaneId = some focusId)
    (tracks : panes.Tracks leftmost placed)
    (shown : Shows leftmost placed focusId) :
    ∃ pane built, Idles consent (executeSteps request panes [.focus step])
        built ∧
      built.Tracks leftmost placed ∧ built.get? focusId = some pane := by
  obtain ⟨position, rfl, reaches, pane, isPlaced⟩ := shown
  have built := tracks.register_found isPlaced
  refine ⟨pane, _, ?_, built, ?_⟩
  · rw [executeSteps, executeStep, focusPane, aimed, targetPane_found
      position.paneId_ne_empty (tracks.resolve_eq isPlaced reaches)]
    have answered : ∀ rehearsal,
        Rehearsal.server.step ["select-pane", "-t", pane] rehearsal =
          (.ok "", rehearsal) := fun _ => rfl
    exact ((idles_perform answered _ _ _).bind (idles_ok _)).bind (idles_ok _)
  · rw [built.get?_eq, PaneMap.register, Entries.get?_put_self]

/-! ### The own pane -/

theorem currentPane_rehearsed (dry : request.isDryRun = true)
    (path : String) :
    currentPane request path =
      .done (.ok (normalizePaneId (request.currentPane.getD ""))) := by
  unfold currentPane
  dsimp only
  by_cases stated : trimmed (request.currentPane.getD "") = ""
  · rw [if_neg (not_not_intro stated), if_pos dry, normalizePaneId,
      if_pos (isBlankText_of_trimmed stated)]
    rfl
  · rw [if_pos stated, ← normalizePaneId_eq stated]
    rfl

variable (request) (rehearsal) in
/-- Once the own pane is known and the panes are listed, what is left is to close
the others. -/
theorem run_acquire_listed (dry : request.isDryRun = true) (path : String) :
    let own := normalizePaneId (request.currentPane.getD "")
    (acquire request path .currentWindow).run Rehearsal.server consent
      rehearsal =
        let last := (if rehearsal.others own = [] then pure own
          else confirmClosing request (rehearsal.others own) path >>= fun _ =>
            closeOthers own path).run Rehearsal.server consent rehearsal
        ⟨[.sent .listing (.ok ("\n".intercalate rehearsal.panes))] ++
          last.events, last.ending, last.state⟩ := by
  rw [acquire, acquireCurrentWindow_eq, currentPane_rehearsed dry,
    Session.ok_bind, Session.run_bind_of_returned
      (run_listPanes_ok consent path rehearsal.step_listing)]
  rfl

variable (request) (rehearsal) in
/-- A rehearsal takes the pane that the program says it runs in, and closes the
others that it lists if that is agreed to. -/
theorem run_acquire_rehearsed (dry : request.isDryRun = true) (path : String) :
    let own := normalizePaneId (request.currentPane.getD "")
    rehearsal.others own = [] ∨
      consent (rehearsal.others own) = some (.bool true) →
    ∃ events,
      (acquire request path .currentWindow).run Rehearsal.server consent
        rehearsal = ⟨events, .returned own, rehearsal.settled own⟩ := by
  intro own agrees
  rw [run_acquire_listed request consent rehearsal dry path]
  dsimp only
  rw [Rehearsal.settled]
  by_cases alone : rehearsal.others own = []
  · rw [if_pos alone, if_pos alone]
    exact ⟨_, rfl⟩
  · have agreed := agrees.resolve_left alone
    rw [if_neg alone, if_neg alone]
    obtain ⟨questions, _, confirmed⟩ | ⟨ending, asks, refused, confirmed⟩ :=
      run_confirmClosing request Rehearsal.server consent
        (rehearsal.others own) path rehearsal
    · rw [Session.run_bind_of_returned confirmed, closeOthers,
        Session.run_bind_of_returned
          (run_perform_ok consent (rehearsal.step_closing own) _ path _)]
      exact ⟨_, rfl⟩
    · cases refused with
      | unanswered none => cases none.symm.trans agreed
      | declined answered notTrue =>
          exact absurd (Option.some.inj (answered.symm.trans agreed)) notTrue

variable (request) (rehearsal) in
/-- Without an answer about the others, the window is not acquired. -/
theorem run_acquire_unanswered (dry : request.isDryRun = true)
    (asks : request.asks = true) (path : String) :
    let own := normalizePaneId (request.currentPane.getD "")
    rehearsal.others own ≠ [] → consent (rehearsal.others own) = none →
    ∃ events,
      (acquire request path .currentWindow).run Rehearsal.server consent
        rehearsal = ⟨events, .unanswered, rehearsal⟩ := by
  intro own areOthers unanswered
  rw [run_acquire_listed request consent rehearsal dry path]
  dsimp only
  rw [if_neg areOthers, confirmClosing, if_pos asks, Session.run_bind,
    Session.run_ask_unanswered _ _ unanswered]
  exact ⟨_, rfl⟩

end Rehearsed

/-! ### Panes of terminals -/

/-- Panes that are handed out, and the own one. -/
def handedOut (next count : Nat) (own : String) : List String :=
  ((List.range count).map fun index => paneName (next + index)) ++ [own]

theorem nodup_handedOut_iff {next count : Nat} {own : String} :
    (handedOut next count own).Nodup ↔
      ∀ index < count, paneName (next + index) ≠ own := by
  have distinct :
      ((List.range count).map fun index => paneName (next + index)).Nodup :=
    List.nodup_range.map fun index other same =>
      Nat.add_left_cancel (paneName_injective same)
  rw [handedOut, List.nodup_append]
  simp [distinct]

section Leaves

variable {layout : Layout} (own : String) (next : Nat)

/-- The panes of the leaves are those that were handed out and the own one. -/
theorem placed_perm (children : layout.HasChildren) :
    ((Layout.anchored (layout.unfold [])).leaves.map
        ((Placement.start own).numbered next (layout.divisions []))).Perm
      ((handedOut next (layout.divisions []).length own).map some) := by
  have feasible := feasible_start layout
  have placed := (Layout.leaves_anchored children).2.map
    ((Placement.start own).numbered next (layout.divisions []))
  rw [List.map_append, Placement.map_numbered feasible, List.map_singleton,
    Placement.numbered_of_mem feasible (List.mem_singleton.mpr rfl)] at placed
  rw [handedOut, List.map_append, List.map_map]
  exact placed

theorem exists_placed (children : layout.HasChildren) {anchor : Position}
    (member : anchor ∈ (Layout.anchored (layout.unfold [])).leaves) :
    ∃ pane, (Placement.start own).numbered next (layout.divisions []) anchor =
      some pane := by
  have isPane := (placed_perm own next children).mem_iff.mp
    (List.mem_map_of_mem member)
  obtain ⟨pane, _, same⟩ := List.mem_map.mp isPane
  exact ⟨pane, same.symm⟩

variable {own} {next}

theorem tracks_start {emission : Emission} (builds : emission.Builds layout)
    (nonempty : own ≠ "") :
    (PaneMap.empty.register emission.summary.initialPaneId own).Tracks
      (layout.leftmost []) (.start own) := by
  rw [builds.initial]
  exact .start (Layout.anchor_leftmost [] layout) nonempty

theorem mem_start_iff (anchor : Position) :
    anchor ∈ {anchor | anchor ∈ (PaneTree.leaf ([] : Position)).leaves} ↔
      ∃ pane, Placement.start own anchor = some pane := by
  simp [Placement.start, PaneTree.leaves]

/-- Terminals are found in the panes that were handed out and in the own one. -/
theorem lookups_perm {emission : Emission} (builds : emission.Builds layout)
    {panes : PaneMap}
    (tracks : panes.Tracks (layout.leftmost [])
      ((Placement.start own).numbered next (layout.divisions []))) :
    (emission.terminals.map fun terminal =>
        panes.lookup terminal.virtualPaneId).Perm
      ((handedOut next (layout.divisions []).length own).map some) := by
  have lookups : (emission.terminals.map fun terminal =>
      panes.lookup terminal.virtualPaneId) =
        (Layout.anchored (layout.unfold [])).leaves.map
          ((Placement.start own).numbered next (layout.divisions [])) := by
    have ids := congrArg (List.map panes.lookup) builds.terminals
    rw [List.map_map] at ids
    refine Eq.trans ids ?_
    rw [leafIds, List.map_map, Layout.anchored, PaneTree.leaves_map,
      List.map_map]
    refine List.map_congr_left fun leaf isLeaf => ?_
    obtain ⟨pane, isPlaced⟩ := exists_placed own next builds.children (by
      rw [Layout.anchored, PaneTree.leaves_map]
      exact List.mem_map_of_mem isLeaf)
    have reaches := Layout.leaves_reach [] layout builds.children
      (fun _ => le_rfl) leaf isLeaf
    exact (tracks.lookup_eq isPlaced reaches).trans isPlaced.symm
  rw [lookups]
  exact placed_perm own next builds.children

/-- The steps of an emission build its layout, if the panes that are handed out
are not listed already. -/
theorem run_steps_fresh {request : ReplayRequest}
    (consent : List String → Option Value) (dry : request.isDryRun = true)
    {emission : Emission} (builds : emission.Builds layout)
    (nonempty : own ≠ "") {rehearsal : Rehearsal}
    (fresh : rehearsal.FreshFor (layout.divisions []).length) :
    ∃ events panes focusPane last,
      (executeSteps request
        (PaneMap.empty.register emission.summary.initialPaneId own)
        emission.steps).run Rehearsal.server consent rehearsal =
          ⟨events, .returned panes, last⟩ ∧
      panes.Tracks (layout.leftmost [])
        ((Placement.start own).numbered rehearsal.nextNumber
          (layout.divisions [])) ∧
      panes.get? emission.summary.focusPaneId = some focusPane := by
  obtain ⟨splits, focus, steps, carries, aimed⟩ := builds.steps
  obtain ⟨events, split, next, ran, tracks⟩ := run_splitSteps_fresh consent dry
    carries (feasible_start layout) mem_start_iff (tracks_start builds nonempty)
      fresh
  have shown := shows_leaf builds.children
    (fun _ member => exists_placed own rehearsal.nextNumber builds.children
      member) builds.focus
  obtain ⟨focusPane, built, idles, tracks, isFocused⟩ :=
    exists_idles_focusStep request consent aimed tracks shown
  obtain ⟨later, ranLater⟩ := idles next
  refine ⟨events ++ later, built, focusPane, next, ?_, tracks, isFocused⟩
  rw [steps, executeSteps_append, Session.run_bind_of_returned ran, ranLater]

theorem run_steps_stale {request : ReplayRequest}
    (consent : List String → Option Value) (dry : request.isDryRun = true)
    {emission : Emission} (builds : emission.Builds layout)
    (nonempty : own ≠ "") {rehearsal : Rehearsal}
    (stale : ¬ rehearsal.FreshFor (layout.divisions []).length) :
    ∃ events error last,
      (executeSteps request
        (PaneMap.empty.register emission.summary.initialPaneId own)
        emission.steps).run Rehearsal.server consent rehearsal =
          ⟨events, .failed error, last⟩ := by
  obtain ⟨splits, focus, steps, carries, _⟩ := builds.steps
  obtain ⟨events, error, next, ran⟩ := run_splitSteps_stale consent dry carries
    (feasible_start layout) mem_start_iff (tracks_start builds nonempty) stale
  rw [steps, executeSteps_append, Session.run_bind_of_failed ran]
  exact ⟨_, _, _, rfl⟩

end Leaves

end Replay

end PaneLayout
