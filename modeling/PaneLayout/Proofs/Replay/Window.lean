import PaneLayout.Proofs.Plan.PaneTree
import PaneLayout.Proofs.Replay.Acquire

/-!
# Servers that behave like a window

A server behaves like a window if it obeys every command, shows the panes that
it has, and changes them as it is told.  Nothing is said about the names and the
order of its panes.

The commands of a run are read as divisions: a split replaces the leaf of the
pane that it divides, and the pane that the window has afterwards, and did not
have before, is the new one.
-/

namespace PaneLayout

namespace Command

/-- The command that shows the panes of a window. -/
def listing : Command := ["list-panes", "-F", paneIdFormat]

/-- The command that divides a pane. -/
def dividing (orientation : Orientation) (pane option size : String) :
    Command :=
  ["split-window", orientation.flag, "-t", pane, option, size]

/-- The pane that a command divides, and which way. -/
def division? : Command → Option (Orientation × String)
  | "split-window" :: "-h" :: "-t" :: pane :: _ => some (.horizontal, pane)
  | "split-window" :: "-v" :: "-t" :: pane :: _ => some (.vertical, pane)
  | _ => none

theorem division?_dividing (orientation : Orientation)
    (pane option size : String) :
    (dividing orientation pane option size).division? =
      some (orientation, pane) := by
  cases orientation <;> rfl

theorem division?_eq_none {command : Command}
    (other : command.head? ≠ some "split-window") :
    command.division? = none := by
  unfold division?
  split
  · exact absurd rfl other
  · exact absurd rfl other
  · rfl

theorem division?_query {command : Command} (query : command.IsQuery) :
    command.division? = none := by
  refine division?_eq_none ?_
  rcases query with query | query <;> rw [query] <;> decide

end Command

/-- In valid states the server obeys every command, keeps to valid states, and
treats the panes of its window as it is told. -/
structure Server.IsWindow {State : Type} (server : Server State)
    (window : State → List String) (valid : State → Prop) : Prop where
  obeys : ∀ command state, valid state →
    ∃ output, (server.step command state).1 = .ok output
  stays : ∀ command state, valid state → valid (server.step command state).2
  distinct : ∀ state, valid state → (window state).Nodup
  lists : ∀ state output, valid state →
    (server.step .listing state).1 = .ok output →
    listedPanes output = window state
  looks : ∀ command state, valid state → command.IsQuery →
    window (server.step command state).2 = window state
  /-- A new window has one pane, and it is answered. -/
  opens : ∀ name state output, valid state →
    let command := ["new-window", "-P", "-F", paneIdFormat] ++
      Replay.windowNameWords name
    (server.step command state).1 = .ok output →
    trimmed output ≠ "" ∧
      window (server.step command state).2 = [trimmed output]
  closes : ∀ pane state, valid state → pane ∈ window state →
    window (server.step (closingCommand pane) state).2 = [pane]
  /-- A division makes one pane and keeps the others. -/
  divides : ∀ orientation pane option size state, valid state →
    pane ∈ window state → ∃ created, created ∉ window state ∧
      (window (server.step (.dividing orientation pane option size)
        state).2).Perm (created :: window state)

/-- The only item of one list that another one lacks is found. -/
theorem find?_created {before after : List String} {created : String}
    (isNew : created ∉ before) (made : after.Perm (created :: before)) :
    (after.find? fun pane => !before.contains pane) = some created := by
  cases found : after.find? fun pane => !before.contains pane with
  | none =>
      have member : created ∈ after := made.mem_iff.mpr List.mem_cons_self
      have listed := List.find?_eq_none.mp found created member
      simp [isNew] at listed
  | some pane =>
      have member := made.mem_iff.mp (List.mem_of_find?_eq_some found)
      have unlisted := List.find?_some found
      rcases List.mem_cons.mp member with rfl | old
      · rfl
      · simp [old] at unlisted

section Reading

variable {State : Type} (server : Server State)
  (window : State → List String)

/-- The state after some commands. -/
def Server.after (state : State) (commands : List Command) : State :=
  commands.foldl (fun state command => (server.step command state).2) state

/-- What a window comes to by one more command, with the state after it. -/
def observe (seen : PaneTree String × State) (command : Command) :
    PaneTree String × State :=
  let next := (server.step command seen.2).2
  let created := (window next).find? fun pane => !(window seen.2).contains pane
  match command.division?, created with
  | some (orientation, pane), some created =>
      (seen.1.divide orientation pane created, next)
  | _, _ => (seen.1, next)

theorem observe_quiet {command : Command} (quiet : command.division? = none)
    (tree : PaneTree String) (state : State) :
    observe server window (tree, state) command =
      (tree, (server.step command state).2) := by
  simp [observe, quiet]

/-- Commands that divide nothing leave the tree as it is. -/
theorem foldl_observe_of_quiet {commands : List Command}
    (quiet : ∀ command ∈ commands, command.division? = none)
    (tree : PaneTree String) (state : State) :
    commands.foldl (observe server window) (tree, state) =
      (tree, server.after state commands) := by
  induction commands generalizing state with
  | nil => rfl
  | cons command commands induction =>
      obtain ⟨here, later⟩ := List.forall_mem_cons.mp quiet
      rw [List.foldl_cons, observe_quiet server window here, induction later]
      rfl

theorem observe_dividing {orientation : Orientation}
    {pane option size created : String} {state : State}
    (isNew : created ∉ window state)
    (made : (window (server.step (.dividing orientation pane option size)
      state).2).Perm (created :: window state))
    (tree : PaneTree String) :
    observe server window (tree, state)
        (.dividing orientation pane option size) =
      (tree.divide orientation pane created,
        (server.step (.dividing orientation pane option size) state).2) := by
  rw [observe, Command.division?_dividing]
  dsimp only
  rw [find?_created isNew made]

end Reading

theorem commandsOf_sent (command : Command) (answer : Answer) :
    commandsOf [.sent command answer] = [command] := rfl

/-- A run leaves the server in the state after its commands. -/
theorem Session.run_state {ε α State : Type} (server : Server State)
    (consent : List String → Option Value) (session : Session ε α)
    (state : State) :
    (session.run server consent state).state =
      server.after state
        (commandsOf (session.run server consent state).events) := by
  induction session generalizing state with
  | done result => cases result <;> rfl
  | send command next induction =>
      rw [Session.run_send]
      exact induction _ _
  | ask panes next induction =>
      cases answered : consent panes with
      | none =>
          rw [Session.run_ask_unanswered _ _ answered]
          rfl
      | some answer =>
          rw [Session.run_ask_answered _ _ answered]
          exact induction answer state
  | wait seconds next induction =>
      rw [Session.run_wait]
      exact induction state
  | note virtualId realId next induction =>
      rw [Session.run_note]
      exact induction state

namespace Server.IsWindow

variable {State : Type} {server : Server State}
  {window : State → List String} {valid : State → Prop} {state : State}

theorem nonblank (isWindow : server.IsWindow window valid)
    (isValid : valid state) {pane : String} (member : pane ∈ window state) :
    pane ≠ "" := by
  obtain ⟨output, answered⟩ := isWindow.obeys .listing state isValid
  rw [← isWindow.lists state output isValid answered] at member
  exact of_decide_eq_true (List.mem_filter.mp member).2

theorem step_eq (isWindow : server.IsWindow window valid)
    (isValid : valid state) (command : Command) :
    ∃ output next, server.step command state = (.ok output, next) ∧
      valid next := by
  obtain ⟨output, answered⟩ := isWindow.obeys command state isValid
  exact ⟨output, _, Prod.ext answered rfl, isWindow.stays command state isValid⟩

end Server.IsWindow

/-- Listing shows the panes and changes nothing. -/
theorem Replay.run_listing {State : Type} {server : Server State}
    {window : State → List String} {valid : State → Prop} {state : State}
    (isWindow : server.IsWindow window valid) (isValid : valid state)
    (consent : List String → Option Value) (path : String) :
    ∃ output next,
      (listPanes path).run server consent state =
        ⟨[.sent .listing (.ok output)], .returned (window state), next⟩ ∧
      valid next ∧ window next = window state ∧
      ∀ tree, observe server window (tree, state) .listing = (tree, next) := by
  obtain ⟨output, next, answered, nextValid⟩ :=
    isWindow.step_eq isValid .listing
  have shown := isWindow.lists state output isValid (by rw [answered])
  have same := isWindow.looks .listing state isValid (.inr rfl)
  rw [answered] at same
  refine ⟨output, next, shown ▸ run_listPanes_ok consent path answered,
    nextValid, same, fun tree => ?_⟩
  rw [observe_quiet server window rfl, answered]

end PaneLayout
