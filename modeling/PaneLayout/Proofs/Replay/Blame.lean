import PaneLayout.Proofs.Replay.Rebuild
import PaneLayout.Proofs.Session.History

/-!
# Which part an error comes from

An error about what a step says comes from carrying out the steps.  Acquiring a
window, configuring terminals and restoring the focus fail in other ways: a
command fails, a question is declined, or something else is missing.  Only a
fault does not say which part it comes from.
-/

namespace PaneLayout

/-- The error is about what a step says. -/
inductive ReplayError.RejectsStep : ReplayError → Prop where
  | missingTarget (role : TargetRole) (stepId : String) :
      RejectsStep (.missingTarget role stepId)
  | unknownTarget (role : TargetRole) (target stepId : String) :
      RejectsStep (.unknownTarget role target stepId)
  | missingOrientation (stepId : String) :
      RejectsStep (.missingOrientation stepId)
  | missingPercentage (stepId : String) :
      RejectsStep (.missingPercentage stepId)
  | unsupportedStep (kind : String) (id : Option String) :
      RejectsStep (.unsupportedStep kind id)
  | unresolvedSize (sizing : DynamicSizing) (cells : Option Int)
      (error : SizeError) (stepId : String) :
      RejectsStep (.unresolvedSize sizing cells error stepId)
  /-- A size or a percentage cannot be computed with. -/
  | fault (cause : Fault) : RejectsStep (.fault cause)

/-- How a session can end is how its runs end. -/
theorem Session.Ends.of_failed {ε α State : Type}
    {results : Except ε α → Prop} {session : Session ε α}
    (ends : session.Ends results) {server : Server State}
    {consent : List String → Option Value} {state : State} {error : ε}
    (failed : (session.run server consent state).ending = .failed error) :
    results (.error error) :=
  (ends.heeds []).results_of_run server consent state
    (congrArg Ending.result? failed)

namespace Replay

/-- There is no error about what a step says, apart from faults. -/
def Blameless {α : Type} : Except ReplayError α → Prop
  | .ok _ => True
  | .error error => error.RejectsStep → ∃ cause, error = .fault cause

theorem FromTerminal.blameless {α β : Type} {error : ReplayError}
    (fromTerminal : FromTerminal (.error error : Except ReplayError α)) :
    Blameless (.error error : Except ReplayError β) := by
  cases error with
  | unknownToken => exact nofun
  | fault cause => exact fun _ => ⟨cause, rfl⟩
  | _ => cases fromTerminal

/-- As a command that fails ends an orderly part, it is enough to know how the
part ends when all are obeyed. -/
theorem Orderly.ends {α : Type} {part : Part α} {calls : CallSite → Prop}
    {asks : List String → Prop} {results : Except ReplayError α → Prop}
    (orderly : Orderly calls asks part) (ends : part.EndsIfObeyed results)
    (failures : ∀ site error, calls site →
      results (.error (site.failure error))) : part.Ends results := by
  induction orderly with
  | done result =>
      cases ends with
      | done holds => exact .done holds
  | @send site next call failure _ induction =>
      cases ends with
      | send ends =>
          refine .send fun answer => ?_
          cases answer with
          | ok output => exact induction output (ends output)
          | error error =>
              rw [failure error]
              exact .done (failures site error call)
  | ask _ _ induction =>
      cases ends with
      | ask ends => exact .ask fun answer => induction answer (ends answer)
  | wait _ induction =>
      cases ends with
      | wait ends => exact .wait (induction ends)
  | note _ induction =>
      cases ends with
      | note ends => exact .note (induction ends)

theorem obeyed_perform (command : Command) (message path : String)
    (details : Entries Value) :
    (perform command message path details).EndsIfObeyed Blameless :=
  .send fun _ => .done trivial

theorem obeyed_bind {α β : Type} {part : Part α} {continue_ : α → Part β}
    (ends : part.EndsIfObeyed Blameless)
    (rest : ∀ value, (continue_ value).EndsIfObeyed Blameless) :
    (part >>= continue_).EndsIfObeyed Blameless :=
  Session.EndsIfObeyed.bind ends rest fun _ blameless => blameless

theorem obeyed_currentPane (request : ReplayRequest) (path : String) :
    (currentPane request path).EndsIfObeyed Blameless := by
  unfold currentPane
  dsimp only
  split
  · exact .done trivial
  · split
    · exact .done trivial
    · refine obeyed_bind (obeyed_perform _ _ _ _) fun output => ?_
      split
      · exact .done nofun
      · exact .done trivial

theorem obeyed_confirmClosing (request : ReplayRequest)
    (others : List String) (path : String) :
    (confirmClosing request others path).EndsIfObeyed Blameless := by
  unfold confirmClosing
  split
  · refine .ask fun answer => ?_
    split
    · exact .done trivial
    · exact .done nofun
  · exact .done trivial

theorem obeyed_acquire (request : ReplayRequest) (path : String)
    (mode : WindowMode) :
    (acquire request path mode).EndsIfObeyed Blameless := by
  cases mode with
  | newWindow =>
      exact obeyed_bind (obeyed_perform _ _ _ _) fun _ => .done trivial
  | currentWindow =>
      rw [acquire, acquireCurrentWindow_eq]
      refine obeyed_bind (obeyed_currentPane request path) fun current => ?_
      refine obeyed_bind (obeyed_bind (obeyed_perform _ _ _ _)
        fun _ => .done trivial) fun listed => ?_
      split
      · exact .done trivial
      · refine obeyed_bind (obeyed_confirmClosing request _ path) fun _ => ?_
        exact obeyed_bind (obeyed_perform _ _ _ _) fun _ => .done trivial

theorem obeyed_configureAll (request : ReplayRequest) (focusPane : String)
    (named : Entries String) (terminals : List EmittedTerminal)
    (panes : PaneMap) :
    (configureAll request focusPane named panes terminals).EndsIfObeyed
      Blameless := by
  induction terminals generalizing panes with
  | nil => exact .done trivial
  | cons terminal terminals induction =>
      cases found : panes.lookup terminal.virtualPaneId with
      | none =>
          rw [configureAll_of_unknown found]
          exact .done nofun
      | some realId =>
          rw [configureAll_of_found found]
          exact Session.EndsIfObeyed.bind
            (configures_configure request terminal _) (fun _ => induction _)
            fun _ => FromTerminal.blameless

theorem obeyed_conclude (emission : Emission) (request : ReplayRequest)
    (panes : PaneMap) :
    (conclude emission request panes).EndsIfObeyed Blameless := by
  cases focused : panes.get? emission.summary.focusPaneId with
  | none =>
      rw [conclude, configureTerminals, focused]
      exact .done fun rejects => by cases rejects
  | some focusPane =>
      rw [conclude_of_focused focused]
      refine obeyed_bind (obeyed_configureAll request focusPane _ _ _)
        fun panes => ?_
      exact Session.EndsIfObeyed.bind (configures_restoreFocus _ panes)
        (fun _ => .done trivial) fun _ => FromTerminal.blameless

/-- Neither acquiring a window nor what follows the steps fails with an error
about what a step says. -/
theorem blameless_acquire (request : ReplayRequest) (path : String)
    (mode : WindowMode) : (acquire request path mode).Ends Blameless :=
  (orderly_acquire request path mode).ends (obeyed_acquire request path mode)
    fun _ _ _ => nofun

theorem blameless_conclude (emission : Emission) (request : ReplayRequest)
    (panes : PaneMap) : (conclude emission request panes).Ends Blameless :=
  (orderly_conclude emission request panes).ends
    (obeyed_conclude emission request panes) fun _ _ _ => nofun

end Replay

end PaneLayout
