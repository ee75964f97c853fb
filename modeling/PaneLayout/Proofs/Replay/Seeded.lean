import PaneLayout.CommandLine.Program
import PaneLayout.Proofs.Replay.HandedOut

/-!
# Rehearsing in the own pane

A dry run in the current window starts from the pane that the program says it
runs in.  The rehearsal and the replay read its id separately, and the numbers
that the rehearsal hands out are made from it as well.  They fit together as
long as every pane that is needed can be named, and none that is handed out is
listed already or is the own pane.  If others are listed, a notice is shown
before they are closed, and that may fail as well.
-/

namespace PaneLayout

namespace Replay

/-! ### Points of a performance -/

namespace Performance

variable {State : Type} {performance : Performance State}
  {built point : Point State}

/-- A run of the steps that are left is the rest of a run of all steps. -/
theorem Stepping.exists_run_eq {steps : List Step}
    (stepping : performance.Stepping steps point) :
    ∃ acquiring initial settled events,
      performance.Acquires acquiring initial settled ∧
      performance.runPart (executeSteps performance.request
        (PaneMap.empty.register performance.emission.summary.initialPaneId
          initial) performance.emission.steps) settled =
        let later := performance.runPart
          (executeSteps performance.request point.panes steps) point.state
        ⟨events ++ later.events, later.ending, later.state⟩ := by
  induction stepping with
  | acquired acquires => exact ⟨_, _, _, [], acquires, rfl⟩
  | @step step steps point events panes state _ executed induction =>
      obtain ⟨acquiring, initial, settled, earlier, acquires, ran⟩ := induction
      refine ⟨acquiring, initial, settled, earlier ++ events, acquires, ?_⟩
      dsimp only [runPart] at executed ran ⊢
      rw [executeSteps, Session.run_bind_of_returned executed] at ran
      rw [ran, List.append_assoc]

/-- What is recorded once all steps are carried out is what they return. -/
theorem Stepping.panes_eq (stepping : performance.Stepping [] built)
    {acquiring events : List Event} {initial : String} {settled next : State}
    {panes : PaneMap}
    (acquires : performance.Acquires acquiring initial settled)
    (executed : performance.runPart (executeSteps performance.request
      (PaneMap.empty.register performance.emission.summary.initialPaneId
        initial) performance.emission.steps) settled =
      ⟨events, .returned panes, next⟩) : built.panes = panes := by
  obtain ⟨_, _, _, _, again, ran⟩ := stepping.exists_run_eq
  obtain ⟨mode, isMode, acquired⟩ := acquires.acquired
  obtain ⟨_, isAgain, acquiredAgain⟩ := again.acquired
  cases isMode.symm.trans isAgain
  cases acquired.symm.trans acquiredAgain
  cases executed.symm.trans ran
  rfl

/-- The run returns, and once the steps are carried out each terminal is found
in a pane of its own. -/
def SeparatesTerminals (performance : Performance State) : Prop :=
  ∃ result built, performance.run.ending = .returned result ∧
    performance.Stepping [] built ∧
    (∀ terminal ∈ performance.emission.terminals,
      ∃ pane, built.panes.lookup terminal.virtualPaneId = some pane) ∧
    (performance.emission.terminals.map fun terminal =>
      built.panes.lookup terminal.virtualPaneId).Nodup

end Performance

end Replay

open Replay

/-! ### Rehearsals of prepared presets -/

theorem Emission.Builds.length_divisions {emission : Emission} {layout : Layout}
    (builds : emission.Builds layout) :
    (layout.divisions []).length + 1 = emission.steps.length := by
  obtain ⟨splits, focus, steps, carries, _⟩ := builds.steps
  rw [steps, List.length_append, List.length_singleton, carries.length_eq]

namespace Prepared

/-- A dry run in the current window.  A notice is shown before other panes are
closed. -/
def rehearsal (prepared : Prepared) (notice : List String → Except Fault String)
    (windowName pane : Option String) (start : Rehearsal) :
    Performance Rehearsal where
  emission := prepared.emission
  request := {
    mode := WindowMode.currentWindow.name
    windowName
    currentPane := pane
    asks := true
    isDryRun := true }
  server := Rehearsal.server
  consent := Program.consentOf fun panes => Program.announce (notice panes)
  start

section Rehearsal

variable {source : String} {value : Value} {prepared : Prepared}
  {notice : List String → Except Fault String}
  (accepted : ofValue source value = .ok prepared)
  (windowName pane : Option String) {start : Rehearsal}

include accepted

theorem rehearsal_acquires
    (closes : start.CanClose notice (normalizePaneId (pane.getD ""))) :
    let own := normalizePaneId (pane.getD "")
    ∃ events, (prepared.rehearsal notice windowName pane start).Acquires events
      own (start.settled own) := by
  intro own
  have builds := builds_ofValue accepted
  let performance := prepared.rehearsal notice windowName pane start
  have agrees : start.others own = [] ∨
      performance.consent (start.others own) = some (.bool true) := by
    refine closes.imp_right fun ⟨shown, isShown⟩ => ?_
    change Program.consentOf (fun panes => Program.announce (notice panes)) _ = _
    rw [Program.consentOf, isShown]
    rfl
  obtain ⟨events, acquired⟩ := run_acquire_rehearsed performance.request
    performance.consent start rfl prepared.emission.summary.initialPaneId agrees
  refine ⟨events, ?_, .currentWindow, rfl, acquired⟩
  change prepared.emission.summary.initialPaneId ≠ ""
  rw [builds.initial]
  exact Position.paneId_ne_empty _

/-- If the notice fails, the dry run gets no answer. -/
theorem rehearsal_of_silent
    (silent : ¬ start.CanClose notice (normalizePaneId (pane.getD ""))) :
    (prepared.rehearsal notice windowName pane start).run.ending =
      .unanswered := by
  obtain ⟨areOthers, unshown⟩ := not_or.mp silent
  have builds := builds_ofValue accepted
  let performance := prepared.rehearsal notice windowName pane start
  have unanswered : performance.consent
      (start.others (normalizePaneId (pane.getD ""))) = none := by
    change Program.consentOf (fun panes => Program.announce (notice panes)) _ = _
    rw [Program.consentOf]
    cases isNotice : notice (start.others (normalizePaneId (pane.getD ""))) with
    | ok shown => exact absurd ⟨shown, isNotice⟩ unshown
    | error cause => rfl
  obtain ⟨events, ran⟩ := run_acquire_unanswered performance.request
    performance.consent start rfl rfl performance.emission.summary.initialPaneId
    areOthers unanswered
  have hasInitial : prepared.emission.summary.initialPaneId ≠ "" := by
    rw [builds.initial]
    exact Position.paneId_ne_empty _
  have isMode : WindowMode.ofName? performance.request.mode =
    some .currentWindow := rfl
  have whole := Performance.replay_of_acquires hasInitial isMode
  change ((performance.emission.replay performance.request).run Rehearsal.server
    performance.consent start).ending = _
  rw [whole, Session.run_bind, ran]
  rfl

/-- If the panes that are handed out can be named and are not listed already, the
dry run returns, and terminals are found in them and in the own pane. -/
theorem rehearsal_of_fresh (resolve : TokensResolve prepared.emission.terminals)
    (closes : start.CanClose notice (normalizePaneId (pane.getD "")))
    (fresh : (start.settled (normalizePaneId (pane.getD ""))).FreshFor
      (prepared.emission.steps.length - 1)) :
    let own := normalizePaneId (pane.getD "")
    let performance := prepared.rehearsal notice windowName pane start
    (∃ result built, performance.run.ending = .returned result ∧
      performance.Stepping [] built) ∧
    ∀ built, performance.Stepping [] built →
      (prepared.emission.terminals.map fun terminal =>
          built.panes.lookup terminal.virtualPaneId).Perm
        ((handedOut (start.settled own).nextNumber
          (prepared.emission.steps.length - 1) own).map some) := by
  intro own performance
  have builds := builds_ofValue accepted
  have count : prepared.emission.steps.length - 1 =
      (prepared.preset.builtLayout.divisions []).length := by
    rw [← builds.length_divisions, Nat.add_sub_cancel]
  have dry : performance.request.isDryRun = true := rfl
  rw [count] at fresh ⊢
  obtain ⟨acquiring, acquires⟩ :=
    rehearsal_acquires accepted windowName pane closes
  obtain ⟨events, panes, focusPane, last, ran, tracks, isFocused⟩ :=
    run_steps_fresh performance.consent dry builds
      (normalizePaneId_ne_empty _) fresh
  have perm := lookups_perm builds tracks
  have found : ∀ terminal ∈ prepared.emission.terminals,
      ∃ pane, panes.lookup terminal.virtualPaneId = some pane := by
    intro terminal member
    have isPane := perm.mem_iff.mp (List.mem_map_of_mem member)
    obtain ⟨pane, _, same⟩ := List.mem_map.mp isPane
    exact ⟨pane, same.symm⟩
  let result : ReplayResult :=
    ⟨prepared.emission.steps.length, prepared.emission.summary.focusPaneId⟩
  have idles : Idles performance.consent
      (conclude prepared.emission performance.request panes) result :=
    idles_conclude dry isFocused (terminals_apart accepted) found resolve
  obtain ⟨later, concluded⟩ := idles last
  have stepping := Performance.Stepping.acquired acquires
  have reached := stepping.reaches.pass ran panes
  have returned : performance.run.ending = .returned result := by
    rw [show performance.run = _ from reached]
    exact congrArg Run.ending concluded
  obtain ⟨_, built, _, complete⟩ := stepping.exists_carriesOut
    (Plan.emit_areShown (stages_ofValue accepted).2.2) returned
  refine ⟨⟨result, built, returned, complete⟩, fun built complete => ?_⟩
  rw [complete.panes_eq acquires ran]
  exact perm

/-- If one of them cannot be named or is listed already, the dry run fails. -/
theorem rehearsal_of_stale
    (closes : start.CanClose notice (normalizePaneId (pane.getD "")))
    (stale : ¬ (start.settled (normalizePaneId (pane.getD ""))).FreshFor
      (prepared.emission.steps.length - 1)) :
    ∃ error, (prepared.rehearsal notice windowName pane start).run.ending =
      .failed error := by
  let performance := prepared.rehearsal notice windowName pane start
  have builds := builds_ofValue accepted
  have dry : performance.request.isDryRun = true := rfl
  rw [← builds.length_divisions, Nat.add_sub_cancel] at stale
  obtain ⟨acquiring, acquires⟩ :=
    rehearsal_acquires accepted windowName pane closes
  obtain ⟨events, error, last, ran⟩ := run_steps_stale performance.consent dry
    builds (normalizePaneId_ne_empty _) stale
  have reached := (Performance.Stepping.acquired acquires).reaches
  refine ⟨error, ?_⟩
  rw [show performance.run = _ from reached]
  exact congrArg Run.ending (Session.run_bind_of_failed ran _)

theorem separatesTerminals_iff
    (resolve : TokensResolve prepared.emission.terminals) :
    let own := normalizePaneId (pane.getD "")
    let settled := start.settled own
    (prepared.rehearsal notice windowName pane start).SeparatesTerminals ↔
      start.CanClose notice own ∧
      ∀ index, index + 1 < prepared.emission.steps.length →
        settled.nextNumber + index < Nat.pow 10 digitLimit ∧
        paneName (settled.nextNumber + index) ∉ own :: settled.listed := by
  intro own settled
  have within (index : Nat) : index + 1 < prepared.emission.steps.length ↔
      index < prepared.emission.steps.length - 1 := by omega
  constructor
  · rintro ⟨result, built, returned, stepping, _, distinct⟩
    by_cases closes : start.CanClose notice own
    · refine ⟨closes, fun index below => ?_⟩
      rw [within] at below
      by_cases fresh : settled.FreshFor (prepared.emission.steps.length - 1)
      · have perm := (rehearsal_of_fresh accepted windowName pane resolve closes
          fresh).2 built stepping
        have names := List.Nodup.of_map some (perm.nodup_iff.mp distinct)
        obtain ⟨named, isFresh⟩ := fresh index below
        refine ⟨named, List.not_mem_cons_of_ne_of_not_mem ?_ isFresh⟩
        exact nodup_handedOut_iff.mp names index below
      · obtain ⟨error, failed⟩ :=
          rehearsal_of_stale accepted windowName pane closes fresh
        cases failed.symm.trans returned
    · have unanswered := rehearsal_of_silent accepted windowName pane closes
      cases unanswered.symm.trans returned
  · rintro ⟨closes, apart⟩
    have fresh : settled.FreshFor (prepared.emission.steps.length - 1) := by
      intro index below
      obtain ⟨named, absent⟩ := apart index ((within index).mpr below)
      exact ⟨named, fun isListed => absent (List.mem_cons_of_mem own isListed)⟩
    obtain ⟨⟨result, built, returned, stepping⟩, perms⟩ :=
      rehearsal_of_fresh accepted windowName pane resolve closes fresh
    have perm := perms built stepping
    refine ⟨result, built, returned, stepping, fun terminal member => ?_, ?_⟩
    · have isPane := perm.mem_iff.mp (List.mem_map_of_mem member)
      obtain ⟨pane, _, same⟩ := List.mem_map.mp isPane
      exact ⟨pane, same.symm⟩
    · have names := nodup_handedOut_iff.mpr fun index below same =>
        (apart index ((within index).mpr below)).2
          (List.mem_cons.mpr (.inl same))
      exact perm.nodup_iff.mpr (names.map (Option.some_injective _))

end Rehearsal

/-- A dry run in the current window works out if and only if it can show a notice
about the panes that it closes, if there are any, and its rehearsal can name every
pane that it hands out, none of which it lists already or is the own pane.  Then
every step is carried out, and each terminal is found in a pane of its own.  This
is so whenever the program says nothing about its pane, or says a plain pane id,
as long as the numbers after it are not too long. -/
theorem rehearsal_separates_iff {source : String} {value : Value}
    {prepared : Prepared} (accepted : ofValue source value = .ok prepared)
    (resolve : TokensResolve prepared.emission.terminals)
    (notice : List String → Except Fault String)
    (windowName pane : Option String) :
    ((∃ start, Rehearsal.inPane pane = .ok start ∧
        (prepared.rehearsal notice windowName pane start).SeparatesTerminals) ↔
      ∃ start, Rehearsal.inPane pane = .ok start ∧
        let own := normalizePaneId (pane.getD "")
        let settled := start.settled own
        start.CanClose notice own ∧
        ∀ index, index + 1 < prepared.emission.steps.length →
          settled.nextNumber + index < Nat.pow 10 digitLimit ∧
          paneName (settled.nextNumber + index) ∉ own :: settled.listed) ∧
    (Rehearsal.IsPlainId (Rehearsal.seed pane) →
      ∃ start, Rehearsal.inPane pane = .ok start ∧
        (start.nextNumber + (prepared.emission.steps.length - 1) ≤
            Nat.pow 10 digitLimit →
          (prepared.rehearsal notice windowName pane
            start).SeparatesTerminals)) := by
  refine ⟨exists_congr fun start => and_congr_right fun _ =>
    separatesTerminals_iff accepted windowName pane resolve,
    fun plain => ?_⟩
  obtain ⟨start, isStart, alone, apart⟩ := Rehearsal.exists_inPane plain
  have isOwn := Rehearsal.own_eq_seed plain
  have noOthers : start.others (Rehearsal.seed pane) = [] := by
    rw [Rehearsal.others, alone]
    simp
  have settled : start.settled (Rehearsal.seed pane) = start := by
    rw [Rehearsal.settled, if_pos noOthers]
  refine ⟨start, isStart, fun room => ?_⟩
  refine (separatesTerminals_iff accepted windowName pane resolve).mpr ?_
  rw [isOwn, settled, alone]
  refine ⟨.inl noOthers, fun index below => ⟨?_, by simp [apart index]⟩⟩
  exact Nat.lt_of_lt_of_le (by omega) room

theorem rehearsal_separates_namedTwice :
    ∃ prepared start, ofValue "local" namedTwice = .ok prepared ∧
      TokensResolve prepared.emission.terminals ∧
      Rehearsal.inPane (some "%7") = .ok start ∧
      (prepared.rehearsal Program.closingNotice none (some "%7")
        start).SeparatesTerminals := by
  have evaluated : (ofValue "local" namedTwice).toOption.map
      (fun prepared => (decide (TokensResolve prepared.emission.terminals),
        decide (8 + (prepared.emission.steps.length - 1) ≤
          Nat.pow 10 digitLimit))) =
        some (true, true) := by
    decide +kernel
  obtain ⟨prepared, isPrepared, known⟩ := Option.map_eq_some_iff.mp evaluated
  obtain ⟨resolves, fits⟩ := Prod.mk.inj known
  have accepted := ok_of_toOption_eq_some isPrepared
  have resolve := of_decide_eq_true resolves
  have started : Rehearsal.inPane (some "%7") = .ok ⟨["%7"], 8⟩ := by decide
  obtain ⟨start, isStart, separates⟩ := (rehearsal_separates_iff accepted
    resolve Program.closingNotice none (some "%7")).2
      ⟨by decide, by decide, some 7, by decide⟩
  cases started.symm.trans isStart
  exact ⟨prepared, _, accepted, resolve, started,
    separates (of_decide_eq_true fits)⟩

/-- A preset with two panes side by side. -/
def pair : Value :=
  .record [
    ("name", .text "Pair"),
    ("layout", .record [
      ("type", .text "horizontal"),
      ("ratio", .list [.int 1, .int 1]),
      ("panes", .list [
        .record [("name", .text "left")],
        .record [("name", .text "right")]])])]

/-- A dry run may fail for a pane id with a blank after it.  The own pane is known
without the blank, but no number is read with it, so the first pane that is
handed out is named as the own one. -/
theorem not_forall_rehearsal_separates :
    ¬ ∀ (source : String) (value : Value) (prepared : Prepared)
      (windowName pane : Option String),
      ofValue source value = .ok prepared →
      TokensResolve prepared.emission.terminals →
      ∃ start, Rehearsal.inPane pane = .ok start ∧
        (prepared.rehearsal Program.closingNotice windowName pane
          start).SeparatesTerminals := by
  intro always
  have evaluated : (ofValue "local" pair).toOption.map
      (fun prepared => (prepared.emission.steps.length,
        decide (TokensResolve prepared.emission.terminals))) =
        some (2, true) := by
    decide +kernel
  obtain ⟨prepared, isPrepared, known⟩ := Option.map_eq_some_iff.mp evaluated
  obtain ⟨steps, resolves⟩ := Prod.mk.inj known
  have accepted := ok_of_toOption_eq_some isPrepared
  have resolve := of_decide_eq_true resolves
  obtain ⟨start, isStart, separates⟩ :=
    always "local" pair prepared none (some "%0 ") accepted resolve
  have started : Rehearsal.inPane (some "%0 ") = .ok ⟨["%0 "], 0⟩ := by decide
  cases started.symm.trans isStart
  obtain ⟨_, apart⟩ := (separatesTerminals_iff accepted none (some "%0 ")
    resolve).mp separates
  refine (apart 0 (by rw [steps]; decide)).2 ?_
  decide

end Prepared

end PaneLayout
