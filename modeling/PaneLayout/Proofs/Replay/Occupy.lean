import Mathlib.Data.List.TakeWhile
import PaneLayout.Proofs.Replay.Window

/-!
# Acquiring a window that behaves

In a server that behaves like a window, an acquisition ends with a window of a
single pane, unless closing the other panes is not allowed.
-/

namespace PaneLayout.Replay

/-- The pane that the program runs in, before anything is changed. -/
def ownPane {State : Type} (request : ReplayRequest) (server : Server State)
    (state : State) : String :=
  let stated := trimmed (request.currentPane.getD "")
  if stated ≠ "" then
    stated
  else if request.isDryRun then
    placeholderPane
  else
    match (server.step ["display-message", "-p", paneIdFormat] state).1 with
    | .ok output => trimmed output
    | .error _ => ""

/-- A list whose items are all the same has no other one. -/
theorem eq_singleton {items : List String} {only : String}
    (distinct : items.Nodup) (member : only ∈ items)
    (nothingElse : items.filter (· ≠ only) = []) : items = [only] := by
  have same : ∀ item ∈ items, item = only := by
    simpa [List.filter_eq_nil_iff] using nothingElse
  cases items with
  | nil => cases member
  | cons first rest =>
      obtain ⟨isOnly, restOnly⟩ := List.forall_mem_cons.mp same
      cases rest with
      | nil => rw [isOnly]
      | cons second rest =>
          have again := restOnly second List.mem_cons_self
          rw [isOnly, again] at distinct
          simp at distinct

theorem normalizePaneId_eq {raw : String} (nonblank : trimmed raw ≠ "") :
    normalizePaneId raw = trimmed raw := by
  unfold normalizePaneId
  split
  · rename_i blank
    have nothing : raw.toList.dropWhile isBlank = [] :=
      List.dropWhile_eq_nil_iff.mpr (List.all_eq_true.mp blank)
    rw [trimmed, trimBlanks, nothing] at nonblank
    exact absurd rfl nonblank
  · rfl

section Occupy

variable {State : Type} {server : Server State}
  {window : State → List String} {valid : State → Prop} {state : State}
  {request : ReplayRequest} (consent : List String → Option Value)

theorem run_currentPane_own (isWindow : server.IsWindow window valid)
    (isValid : valid state)
    (inWindow : ownPane request server state ∈ window state)
    (path : String) :
    ∃ queries next,
      (currentPane request path).run server consent state =
        ⟨queries, .returned (ownPane request server state), next⟩ ∧
      valid next ∧ window next = window state := by
  have nonblank := isWindow.nonblank isValid inWindow
  unfold ownPane at nonblank ⊢
  unfold currentPane
  dsimp only at nonblank ⊢
  by_cases stated : trimmed (request.currentPane.getD "") = ""
  · rw [if_neg (not_not_intro stated)] at nonblank ⊢
    rw [if_neg (not_not_intro stated)]
    by_cases dry : request.isDryRun = true
    · rw [if_pos dry, if_pos dry]
      exact ⟨[], state, rfl, isValid, rfl⟩
    · rw [if_neg dry] at nonblank ⊢
      obtain ⟨output, next, answered, nextValid⟩ := isWindow.step_eq isValid
        ["display-message", "-p", paneIdFormat]
      have same := isWindow.looks ["display-message", "-p", paneIdFormat]
        state isValid (.inl rfl)
      rw [answered] at nonblank same ⊢
      rw [if_neg dry, Session.run_bind_of_returned
        (run_perform_ok consent answered _ path []), if_neg nonblank]
      exact ⟨_, next, rfl, nextValid, same⟩
  · rw [if_pos stated, if_pos stated]
    exact ⟨[], state, rfl, isValid, rfl⟩

theorem run_acquireNewWindow (isWindow : server.IsWindow window valid)
    (isValid : valid state) (path : String) :
    ∃ events initial next,
      (acquireNewWindow request path).run server consent state =
        ⟨events, .returned initial, next⟩ ∧
      valid next ∧ window next = [initial] := by
  obtain ⟨output, next, answered, nextValid⟩ := isWindow.step_eq isValid
    (["new-window", "-P", "-F", paneIdFormat] ++
      windowNameWords request.windowName)
  obtain ⟨nonblank, opened⟩ := isWindow.opens request.windowName state output
    isValid (by rw [answered])
  rw [answered] at opened
  unfold acquireNewWindow
  rw [Session.run_bind_of_returned (run_perform_ok consent answered _ path []),
    normalizePaneId_eq nonblank]
  exact ⟨_, _, next, rfl, nextValid, opened⟩

/-- The current window is left with the own pane alone. -/
theorem run_acquireCurrentWindow (isWindow : server.IsWindow window valid)
    (isValid : valid state)
    (inWindow : ownPane request server state ∈ window state) (path : String)
    (agreed : ∀ panes, .asked panes ∈ ((acquireCurrentWindow request path).run
      server consent state).events → consent panes = some (.bool true)) :
    ∃ events initial next,
      (acquireCurrentWindow request path).run server consent state =
        ⟨events, .returned initial, next⟩ ∧
      valid next ∧ window next = [initial] := by
  obtain ⟨queries, first, own, firstValid, firstWindow⟩ :=
    run_currentPane_own consent isWindow isValid inWindow path
  obtain ⟨output, second, listed, secondValid, secondWindow, _⟩ :=
    run_listing isWindow firstValid consent path
  rw [firstWindow] at listed
  rw [acquireCurrentWindow_eq, Session.run_bind_of_returned own,
    Session.run_bind_of_returned listed] at agreed ⊢
  dsimp only at agreed ⊢
  by_cases alone : (window state).filter
      (· ≠ ownPane request server state) = []
  · rw [if_pos alone]
    refine ⟨_, _, second, rfl, secondValid, ?_⟩
    rw [secondWindow, firstWindow]
    exact eq_singleton (isWindow.distinct state isValid) inWindow alone
  · rw [if_neg alone] at agreed ⊢
    rcases run_confirmClosing request server consent ((window state).filter
      (· ≠ ownPane request server state)) path second with
      ⟨questions, _, confirmed⟩ | ⟨ending, asks, refused, confirmed⟩
    · obtain ⟨closed, third, answered, thirdValid⟩ :=
        isWindow.step_eq secondValid
          (closingCommand (ownPane request server state))
      have left := isWindow.closes (ownPane request server state) second
        secondValid (by rwa [secondWindow, firstWindow])
      rw [answered] at left
      rw [Session.run_bind_of_returned confirmed, closeOthers,
        Session.run_bind_of_returned
          (run_perform_ok consent answered _ path _)]
      exact ⟨_, _, third, rfl, thirdValid, left⟩
    · have asked := agreed ((window state).filter
        (· ≠ ownPane request server state)) (by
          rw [Session.run_bind, confirmed]
          cases ending <;> simp [Run.andThen])
      cases refused with
      | unanswered none =>
          rw [asked] at none
          cases none
      | declined answered notTrue =>
          rw [asked] at answered
          exact absurd (Option.some.inj answered).symm notTrue

theorem run_acquire (isWindow : server.IsWindow window valid)
    (isValid : valid state) {mode : WindowMode}
    (inWindow : mode = .currentWindow →
      ownPane request server state ∈ window state) (path : String)
    (agreed : ∀ panes, .asked panes ∈ ((acquire request path mode).run server
      consent state).events → consent panes = some (.bool true)) :
    ∃ events initial next,
      (acquire request path mode).run server consent state =
        ⟨events, .returned initial, next⟩ ∧
      valid next ∧ window next = [initial] := by
  cases mode with
  | newWindow => exact run_acquireNewWindow consent isWindow isValid path
  | currentWindow =>
      exact run_acquireCurrentWindow consent isWindow isValid (inWindow rfl)
        path agreed

end Occupy

end PaneLayout.Replay
