import PaneLayout.Proofs.Replay.Tokens
import PaneLayout.Proofs.Server.Rehearsal

/-!
# Parts of a rehearsal that change nothing

Configuring the terminals only types into panes, which a rehearsal does not
mind.  In a dry run, which does not wait, this always comes to its end when a
pane is found for every terminal and the tokens of all commands name terminals.
-/

namespace PaneLayout

/-- Some terminal has the name that a piece of a command asks for. -/
def Template.Piece.resolves (names : List String) : Template.Piece → Bool
  | .token (.paneOf name) => names.contains (String.ofList (trimBlanks name))
  | _ => true

namespace Replay

/-- The tokens of all commands can be replaced. -/
def TokensResolve (terminals : List EmittedTerminal) : Prop :=
  ∀ terminal ∈ terminals,
    ∀ piece ∈ Template.pieces (terminal.command.getD "").toList,
      piece.resolves (terminals.map EmittedTerminal.name) = true

instance (terminals : List EmittedTerminal) :
    Decidable (TokensResolve terminals) :=
  inferInstanceAs (Decidable (∀ terminal ∈ terminals, ∀ piece ∈ _, _ = true))

section Idles

variable {request : ReplayRequest} {consent : List String → Option Value}
  {α β : Type}

/-! ### Parts that change nothing -/

/-- In a rehearsal the part returns a value and changes nothing. -/
def Idles (consent : List String → Option Value) (part : Part α)
    (value : α) : Prop :=
  ∀ rehearsal, ∃ events, part.run Rehearsal.server consent rehearsal =
    ⟨events, .returned value, rehearsal⟩

theorem idles_ok (value : α) : Idles consent (.done (.ok value)) value :=
  fun _ => ⟨[], rfl⟩

theorem Idles.bind {part : Part α} {continue_ : α → Part β} {value : α}
    {result : β} (first : Idles consent part value)
    (rest : Idles consent (continue_ value) result) :
    Idles consent (part >>= continue_) result := by
  intro rehearsal
  obtain ⟨events, ran⟩ := first rehearsal
  obtain ⟨later, ranLater⟩ := rest rehearsal
  refine ⟨events ++ later, ?_⟩
  rw [Session.run_bind_of_returned ran, ranLater]

theorem idles_perform {command : Command} {output : String}
    (answered : ∀ rehearsal, Rehearsal.server.step command rehearsal =
      (.ok output, rehearsal))
    (message path : String) (details : Entries Value) :
    Idles consent (perform command message path details) output :=
  fun rehearsal => ⟨_, run_perform_ok consent (answered rehearsal) _ _ _⟩

theorem idles_typeLine (pane line path action : String)
    (details : Entries Value) :
    Idles consent (typeLine pane line path action details) () :=
  (idles_perform (fun _ => rfl) _ _ _).bind (idles_ok ())

theorem idles_exportAll (pane path : String) (assignments : Entries String) :
    Idles consent (exportAll pane path assignments) () := by
  induction assignments with
  | nil => exact idles_ok ()
  | cons first rest induction =>
      exact (idles_typeLine _ _ _ _ _).bind induction

theorem idles_setTitle (pane path : String) (title : Option String) :
    Idles consent (setTitle pane path title) () := by
  unfold setTitle
  split
  · exact idles_ok ()
  · exact idles_ok ()
  · exact (idles_perform (fun _ => rfl) _ _ _).bind (idles_ok ())

theorem idles_enterDirectory (pane path : String)
    (directory : Option String) :
    Idles consent (enterDirectory pane path directory) () := by
  unfold enterDirectory
  split
  · exact idles_ok ()
  · exact idles_ok ()
  · exact idles_typeLine _ _ _ _ _

/-- A dry run does not wait. -/
theorem idles_waitFor (dry : request.isDryRun = true) (delay : Option Int) :
    Idles consent (waitFor request delay) () := by
  unfold waitFor
  split
  · exact idles_ok ()
  · rw [if_pos (.inr dry)]
    exact idles_ok ()

theorem idles_configure (dry : request.isDryRun = true)
    {terminal : EmittedTerminal} {panes : TokenPanes} {line : String}
    (made : commandLine terminal panes = .ok line) :
    Idles consent (configure request terminal panes) () := by
  refine (idles_setTitle _ _ _).bind ?_
  refine (idles_enterDirectory _ _ _).bind ?_
  refine (idles_exportAll _ _ _).bind ?_
  unfold runCommand
  split
  · exact idles_ok ()
  · exact idles_ok ()
  · rw [made]
    refine (idles_ok line).bind ?_
    exact (idles_waitFor dry _).bind (idles_typeLine _ _ _ _ _)

theorem idles_restoreFocus (focusId : String) (panes : PaneMap) :
    Idles consent (restoreFocus focusId panes) () := by
  unfold restoreFocus
  split
  · exact idles_ok ()
  · exact (idles_perform (fun _ => rfl) _ _ _).bind (idles_ok ())

/-! ### Lines whose tokens resolve -/

section Lines

variable {terminals : List EmittedTerminal} {panes : PaneMap}

theorem replacePiece_ok (apart : Apart terminals)
    (found : ∀ terminal ∈ terminals,
      panes.lookup terminal.virtualPaneId = some (foundFor panes terminal))
    {piece : Template.Piece}
    (resolves : piece.resolves (terminals.map EmittedTerminal.name) = true)
    (thisPane focusPane : String) :
    ∃ text, Template.replacePiece
      ⟨thisPane, focusPane, namedTerminals terminals panes⟩ piece =
        .ok text := by
  cases piece with
  | char c => exact ⟨_, rfl⟩
  | token token =>
      cases token with
      | thisPane => exact ⟨_, rfl⟩
      | focusPane => exact ⟨_, rfl⟩
      | paneOf name =>
          have isName : String.ofList (trimBlanks name) ∈
              (namedTerminals terminals panes).keys := by
            rw [namedTerminals_of_apart apart found, Entries.mem_keys_ofList,
              Entries.keys, List.map_map]
            simpa [Template.Piece.resolves] using resolves
          obtain ⟨pane, isPane⟩ := Entries.mem_keys_iff.mp isName
          unfold Template.replacePiece Template.paneOf
          dsimp only
          rw [isPane]
          exact ⟨pane, rfl⟩

theorem commandLine_ok (apart : Apart terminals)
    (found : ∀ terminal ∈ terminals,
      panes.lookup terminal.virtualPaneId = some (foundFor panes terminal))
    (resolve : TokensResolve terminals) {terminal : EmittedTerminal}
    (member : terminal ∈ terminals) (thisPane focusPane : String) :
    ∃ line, commandLine terminal
      ⟨thisPane, focusPane, namedTerminals terminals panes⟩ = .ok line := by
  obtain ⟨texts, replaced⟩ := exists_mapM_ok fun piece isPiece =>
    replacePiece_ok apart found (resolve terminal member piece isPiece)
      thisPane focusPane
  have whole : Template.replace
      ⟨thisPane, focusPane, namedTerminals terminals panes⟩
      (terminal.command.getD "") = .ok (String.join texts) := by
    rw [Template.replace, replaced]
    rfl
  unfold commandLine
  dsimp only
  rw [whole]
  dsimp only [pure_bind]
  split
  · exact ⟨_, rfl⟩
  · split <;> exact ⟨_, rfl⟩

end Lines

/-! ### Terminals in order -/

/-- Looking up terminals that are apart does not keep one from another. -/
theorem idles_configureAll (dry : request.isDryRun = true) {focusPane : String}
    {named : Entries String} {panes : PaneMap}
    {terminals : List EmittedTerminal} (apart : Apart terminals)
    (found : ∀ terminal ∈ terminals,
      ∃ pane, panes.lookup terminal.virtualPaneId = some pane)
    (made : ∀ terminal ∈ terminals, ∀ pane,
      ∃ line, commandLine terminal ⟨pane, focusPane, named⟩ = .ok line) :
    ∃ built, Idles consent
      (configureAll request focusPane named panes terminals) built := by
  induction terminals generalizing panes with
  | nil => exact ⟨panes, idles_ok panes⟩
  | cons terminal terminals induction =>
      obtain ⟨isApart, apart⟩ := List.pairwise_cons.mp apart
      obtain ⟨⟨pane, here⟩, later⟩ := List.forall_mem_cons.mp found
      obtain ⟨madeHere, madeLater⟩ := List.forall_mem_cons.mp made
      obtain ⟨line, isLine⟩ := madeHere pane
      have kept : ∀ other ∈ terminals, ∃ pane,
          (panes.resolve terminal.virtualPaneId).2.lookup other.virtualPaneId =
            some pane := fun other member => by
        rw [PaneMap.lookup_resolve (.inr (isApart other member))]
        exact later other member
      obtain ⟨built, idles⟩ := induction apart kept madeLater
      rw [configureAll_of_found here]
      exact ⟨built, (idles_configure dry isLine).bind idles⟩

/-- Once a pane is found for every terminal and one is recorded for the focus,
nothing keeps the replay from its end. -/
theorem idles_conclude (dry : request.isDryRun = true) {emission : Emission}
    {panes : PaneMap} {focusPane : String}
    (isFocused : panes.get? emission.summary.focusPaneId = some focusPane)
    (apart : Apart emission.terminals)
    (found : ∀ terminal ∈ emission.terminals,
      ∃ pane, panes.lookup terminal.virtualPaneId = some pane)
    (resolve : TokensResolve emission.terminals) :
    Idles consent (conclude emission request panes)
      ⟨emission.steps.length, emission.summary.focusPaneId⟩ := by
  have known : ∀ terminal ∈ emission.terminals,
      panes.lookup terminal.virtualPaneId = some (foundFor panes terminal) :=
    fun terminal member =>
      lookup_eq_foundFor (found terminal member).choose_spec
  have kept : ∀ terminal ∈ emission.terminals, ∃ pane,
      (resolvePanes panes emission.terminals).2.lookup
        terminal.virtualPaneId = some pane := fun terminal member => by
    rw [lookup_resolvePanes fun other isOther =>
      apart.same_or_apart isOther member]
    exact found terminal member
  obtain ⟨built, idles⟩ := idles_configureAll dry apart kept
    fun terminal member pane =>
      commandLine_ok apart known resolve member pane focusPane
  rw [conclude_of_focused isFocused]
  exact idles.bind ((idles_restoreFocus _ built).bind (idles_ok _))

end Idles

end Replay

end PaneLayout
