import PaneLayout.Proofs.Session
import PaneLayout.Replay

/-!
# Sizes of dynamic splits

The size of a dynamic split is read off the answer to one query.  What the
answer leads to does not involve the server any more.
-/

namespace PaneLayout.Replay

/-- The text of the size for a split of a pane with so many cells. -/
def resolvedSize (request : ReplayRequest) (stepId : String)
    (sizing : DynamicSizing) (cells : Option Int) :
    Except ReplayError String :=
  match sizing.resolve cells with
  | .ok split => ofFault (wholeText split.created)
  | .error (.fault cause) => .error (.fault cause)
  | .error error =>
      if request.isDryRun then
        .ok dynamicSizePlaceholder
      else
        .error (.unresolvedSize sizing cells error stepId)

/-- The text of a size, from what the server printed. -/
def sizeText (request : ReplayRequest) (stepId : String)
    (sizing : DynamicSizing) (output : String) : Except ReplayError String :=
  match paneCells output with
  | .ok cells => resolvedSize request stepId sizing cells
  | .error cause => .error (.fault cause)

/-- The command that asks for the size of a pane along a split. -/
def sizeQuery (orientation : Orientation) (target : String) : Command :=
  ["display-message", "-p", "-t", target, orientation.sizeFormat]

theorem dynamicSize_eq (request : ReplayRequest) (stepId : String)
    (orientation : Orientation) (sizing : DynamicSizing) (target : String) :
    dynamicSize request stepId orientation sizing target =
      perform (sizeQuery orientation target)
        "Failed to resolve tmux pane size" stepId [] >>= fun output =>
          Session.ofExcept (sizeText request stepId sizing output) := by
  unfold dynamicSize sizeText
  refine congrArg _ (funext fun output => ?_)
  cases paneCells output with
  | error cause => rfl
  | ok cells =>
      dsimp only [ofFault, Session.ofExcept, Session.ok_bind, resolvedSize]
      cases sizing.resolve cells with
      | ok split => dsimp only
      | error error =>
          cases error with
          | fault cause => rfl
          | unknownSize => dsimp only; split <;> rfl
          | tooSmall => dsimp only; split <;> rfl

/-- In a dry run the placeholder stands for a size that cannot be resolved,
although the server has answered. -/
theorem dynamicSize_run_dry {State : Type} {request : ReplayRequest}
    {server : Server State} {state next : State} {output target : String}
    {orientation : Orientation} {sizing : DynamicSizing} {cells : Option Int}
    (consent : List String → Option Value) (stepId : String)
    (dry : request.isDryRun = true)
    (answered : server.step (sizeQuery orientation target) state =
        (.ok output, next))
    (read : paneCells output = .ok cells)
    (unresolved : sizing.resolve cells = .error .unknownSize ∨
      sizing.resolve cells = .error .tooSmall) :
    (dynamicSize request stepId orientation sizing target).run server consent
        state =
      ⟨[.sent (sizeQuery orientation target) (.ok output)],
        .returned dynamicSizePlaceholder, next⟩ := by
  have placeholder : sizeText request stepId sizing output =
      .ok dynamicSizePlaceholder := by
    rcases unresolved with unresolved | unresolved <;>
      simp only [sizeText, read, resolvedSize, unresolved, dry, if_true]
  rw [dynamicSize_eq, perform, Session.send_bind, Session.run_send, answered]
  dsimp only [Session.ok_bind]
  rw [placeholder, Session.ofExcept, Session.run_ok]
  rfl
end PaneLayout.Replay
