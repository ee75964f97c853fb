import PaneLayout.Proofs.PaneMap.Apart
import PaneLayout.Proofs.Plan.Terminals
import PaneLayout.Proofs.Replay.Names
import PaneLayout.Proofs.Replay.Shown
import Mathlib.Data.List.Forall2

/-!
# What tokens are replaced by

No terminal of a layout is above another one.  So once the steps are carried
out, every lookup of a terminal finds the pane that it finds then: in advance,
when the names are gathered, at the turn of the terminal, and in the end, when
the focus is restored.  The tokens of a command therefore name the panes that
the terminals are configured in, and the one that has the focus after the run.
-/

namespace PaneLayout

namespace Command

/-- A line that is typed into a pane. -/
def typing (pane line : String) : Command :=
  ["send-keys", "-t", pane, line, "Enter"]

def TypesNothing (command : Command) : Prop :=
  command.head? ≠ some "send-keys"

end Command

namespace EmittedTerminal

/-- The command for a text, if there is one that is not empty. -/
def given (command : String → Command) : Option String → List Command
  | none | some "" => []
  | some text => [command text]

theorem given_some {text : String} (nonblank : text ≠ "")
    (command : String → Command) :
    given command (some text) = [command text] := by
  rw [given]
  exact nonblank

/-- The commands that prepare a pane for what a terminal runs. -/
def settings (terminal : EmittedTerminal) (pane : String) : List Command :=
  given (fun title => ["select-pane", "-t", pane, "-T", title])
      terminal.title ++
    (given (fun directory =>
        .typing pane ("cd \"" ++ escapeDoubleQuotes directory ++ "\""))
      terminal.cwd ++
    (terminal.env.getD []).map fun (key, value) =>
      .typing pane ("export " ++ key ++ "=\"" ++ escapeDoubleQuotes value ++
        "\""))

/-- What is typed after the command of a terminal. -/
def exit (terminal : EmittedTerminal) : String :=
  if !terminal.ephemeral then ""
  else if terminal.closeOnError then "; exit"
  else "; [ $? -eq 0 ] && exit"

end EmittedTerminal

namespace Replay

/-- The text that stands for a piece of a command, in a terminal with a pane.
A token with a name stands for the pane of the last terminal of that name. -/
inductive Stands (terminals : List EmittedTerminal) (panes : PaneMap)
    (thisPane focusPane : String) : Template.Piece → String → Prop where
  | char (c : Char) :
      Stands terminals panes thisPane focusPane (.char c) (String.ofList [c])
  | thisPane :
      Stands terminals panes thisPane focusPane (.token .thisPane) thisPane
  | focusPane :
      Stands terminals panes thisPane focusPane (.token .focusPane) focusPane
  | paneOf {name : List Char} {earlier later : List EmittedTerminal}
      {last : EmittedTerminal} {pane : String} :
      terminals = earlier ++ last :: later →
      last.name = String.ofList (trimBlanks name) →
      (∀ other ∈ later, other.name ≠ last.name) →
      panes.lookup last.virtualPaneId = some pane →
      Stands terminals panes thisPane focusPane (.token (.paneOf name)) pane

/-- The commands that configure a terminal, where `stands` tells which text
stands for a piece of what is typed into a pane.  They are all aimed at the pane
that is found for the terminal, and the last one types what the terminal runs,
if it runs something. -/
inductive ConfiguredBy (panes : PaneMap)
    (stands : String → Template.Piece → String → Prop)
    (terminal : EmittedTerminal) : List Command → Prop where
  | idle {pane : String} :
      panes.lookup terminal.virtualPaneId = some pane →
      terminal.command.getD "" = "" →
      ConfiguredBy panes stands terminal (terminal.settings pane)
  | running {pane command : String} {texts : List String} :
      panes.lookup terminal.virtualPaneId = some pane →
      terminal.command = some command → command ≠ "" →
      List.Forall₂ (stands pane) (Template.pieces command.toList) texts →
      ConfiguredBy panes stands terminal
        (terminal.settings pane ++
          [.typing pane (String.join texts ++ terminal.exit)])

theorem ConfiguredBy.exists_lookup {panes : PaneMap}
    {stands : String → Template.Piece → String → Prop}
    {terminal : EmittedTerminal} {commands : List Command}
    (configured : ConfiguredBy panes stands terminal commands) :
    ∃ pane, panes.lookup terminal.virtualPaneId = some pane := by
  cases configured with
  | idle found _ => exact ⟨_, found⟩
  | running found _ _ _ => exact ⟨_, found⟩

theorem ConfiguredBy.mono {panes : PaneMap}
    {stands others : String → Template.Piece → String → Prop}
    {terminal : EmittedTerminal} {commands : List Command}
    (configured : ConfiguredBy panes stands terminal commands)
    (weaker : ∀ pane piece text,
      stands pane piece text → others pane piece text) :
    ConfiguredBy panes others terminal commands := by
  cases configured with
  | idle found isIdle => exact .idle found isIdle
  | running found isCommand nonblank replaced =>
      exact .running found isCommand nonblank (replaced.imp (weaker _))

theorem AcquiringCall.typesNothing {request : ReplayRequest} {path : String}
    {site : CallSite} (call : AcquiringCall request path site) :
    site.command.TypesNothing := by
  cases call <;> simp [Command.TypesNothing, listingCall]

theorem StepCall.typesNothing {step : Step} {site : CallSite}
    (call : StepCall step site) : site.command.TypesNothing := by
  cases call <;> simp [Command.TypesNothing, listingCall]

/-! ### The commands of one terminal -/

section Configure

variable {State : Type} {server : Server State}
  {consent : List String → Option Value} {state next : State}
  {events : List Event} {pane path : String}

theorem commandsOf_typeLine {line action : String} {details : Entries Value}
    (returned : (typeLine pane line path action details).run server consent
      state = ⟨events, .returned (), next⟩) :
    commandsOf events = [.typing pane line] := by
  obtain ⟨_, _, _, _, typed, rest, rfl⟩ := Session.exists_of_run_bind returned
  cases sent_of_run_perform typed
  cases rest
  rfl

theorem commandsOf_setTitle {title : Option String}
    (returned : (setTitle pane path title).run server consent state =
      ⟨events, .returned (), next⟩) :
    commandsOf events = EmittedTerminal.given
      (fun title => ["select-pane", "-t", pane, "-T", title]) title := by
  unfold setTitle at returned
  split at returned
  · cases returned
    rfl
  · cases returned
    rfl
  · next nonblank =>
    obtain ⟨_, _, _, _, sent, rest, rfl⟩ := Session.exists_of_run_bind returned
    cases sent_of_run_perform sent
    cases rest
    rw [EmittedTerminal.given_some nonblank]
    rfl

theorem commandsOf_enterDirectory {directory : Option String}
    (returned : (enterDirectory pane path directory).run server consent state =
      ⟨events, .returned (), next⟩) :
    commandsOf events = EmittedTerminal.given
      (fun directory =>
        .typing pane ("cd \"" ++ escapeDoubleQuotes directory ++ "\""))
      directory := by
  unfold enterDirectory at returned
  split at returned
  · cases returned
    rfl
  · cases returned
    rfl
  · next nonblank =>
    rw [EmittedTerminal.given_some nonblank]
    exact commandsOf_typeLine returned

theorem commandsOf_exportAll {assignments : Entries String}
    (returned : (exportAll pane path assignments).run server consent state =
      ⟨events, .returned (), next⟩) :
    commandsOf events = assignments.map fun (key, value) =>
      .typing pane ("export " ++ key ++ "=\"" ++ escapeDoubleQuotes value ++
        "\"") := by
  induction assignments generalizing state events with
  | nil =>
      cases returned
      rfl
  | cons first rest induction =>
      obtain ⟨_, _, _, _, typed, later, rfl⟩ :=
        Session.exists_of_run_bind returned
      rw [commandsOf_append, commandsOf_typeLine typed, induction later]
      rfl

theorem commandsOf_waitFor {request : ReplayRequest} {delay : Option Int}
    (returned : (waitFor request delay).run server consent state =
      ⟨events, .returned (), next⟩) :
    commandsOf events = [] := by
  unfold waitFor at returned
  split at returned
  · cases returned
    rfl
  · split at returned
    · cases returned
      rfl
    · split at returned
      · cases returned
      · cases returned
        rfl

/-- A terminal that runs something ends its configuration by typing it. -/
theorem commandsOf_runCommand {request : ReplayRequest}
    {terminal : EmittedTerminal} {panes : TokenPanes}
    (returned : (runCommand request terminal panes).run server consent state =
      ⟨events, .returned (), next⟩) :
    (terminal.command.getD "" = "" ∧ commandsOf events = []) ∨
      ∃ command line, terminal.command = some command ∧ command ≠ "" ∧
        commandLine terminal panes = .ok line ∧
        commandsOf events = [.typing panes.thisPane line] := by
  unfold runCommand at returned
  split at returned
  · next isNone =>
    cases returned
    exact .inl ⟨by rw [isNone]; rfl, rfl⟩
  · next isEmpty =>
    cases returned
    exact .inl ⟨by rw [isEmpty]; rfl, rfl⟩
  · next command nonblank isCommand =>
    right
    obtain ⟨_, line, _, _, made, rest, rfl⟩ :=
      Session.exists_of_run_bind returned
    obtain ⟨_, _, _, _, waited, typed, rfl⟩ := Session.exists_of_run_bind rest
    cases isLine : commandLine terminal panes with
    | error error =>
        rw [isLine] at made
        cases made
    | ok _ =>
        rw [isLine] at made
        cases made
        refine ⟨command, line, isCommand, ?_, rfl, ?_⟩
        · rintro rfl
          exact nonblank rfl
        · rw [List.nil_append, commandsOf_append, commandsOf_waitFor waited,
            commandsOf_typeLine typed]
          rfl

/-- A line is a command with its pieces replaced, and an exit. -/
theorem exists_texts_of_commandLine {terminal : EmittedTerminal}
    {panes : TokenPanes} {command line : String}
    (isCommand : terminal.command = some command)
    (made : commandLine terminal panes = .ok line) :
    ∃ texts, line = String.join texts ++ terminal.exit ∧
      List.Forall₂
        (fun piece text => Template.replacePiece panes piece = .ok text)
        (Template.pieces command.toList) texts := by
  unfold commandLine at made
  rw [isCommand, Option.getD_some] at made
  dsimp only at made
  cases replaced : Template.replace panes command with
  | error error =>
      rw [replaced] at made
      cases made
  | ok text =>
      rw [replaced] at made
      obtain ⟨texts, isMapped, joined⟩ := exists_of_bind_eq_ok replaced
      cases joined
      refine ⟨texts, ?_, forall₂_of_mapM isMapped⟩
      unfold EmittedTerminal.exit
      cases ephemeral : terminal.ephemeral <;>
        cases closes : terminal.closeOnError <;>
        · rw [ephemeral, closes] at made
          cases made
          simp

/-- A terminal that is configured is sent the commands for its pane. -/
theorem configuredBy_of_run {request : ReplayRequest}
    {terminal : EmittedTerminal} {panes : PaneMap} {focusPane : String}
    {named : Entries String}
    (found : panes.lookup terminal.virtualPaneId = some pane)
    (returned : (configure request terminal ⟨pane, focusPane, named⟩).run server
      consent state = ⟨events, .returned (), next⟩) :
    ConfiguredBy panes
      (fun pane piece text =>
        Template.replacePiece ⟨pane, focusPane, named⟩ piece = .ok text)
      terminal (commandsOf events) := by
  obtain ⟨title, _, _, _, titled, afterTitle, rfl⟩ :=
    Session.exists_of_run_bind returned
  obtain ⟨directory, _, _, _, entered, afterDirectory, rfl⟩ :=
    Session.exists_of_run_bind afterTitle
  obtain ⟨exports, _, _, run, exported, ran, rfl⟩ :=
    Session.exists_of_run_bind afterDirectory
  have sent : commandsOf (title ++ (directory ++ (exports ++ run))) =
      terminal.settings pane ++ commandsOf run := by
    rw [commandsOf_append, commandsOf_append, commandsOf_append,
      commandsOf_setTitle titled, commandsOf_enterDirectory entered,
      commandsOf_exportAll exported, EmittedTerminal.settings,
      List.append_assoc, List.append_assoc]
  rw [sent]
  rcases commandsOf_runCommand ran with
    ⟨isIdle, nothing⟩ | ⟨command, line, isCommand, nonblank, made, typed⟩
  · rw [nothing, List.append_nil]
    exact .idle found isIdle
  · obtain ⟨texts, rfl, replaced⟩ := exists_texts_of_commandLine isCommand made
    rw [typed]
    exact .running found isCommand nonblank replaced

end Configure

/-! ### Names -/

/-- None of the terminals is above another one. -/
def Apart (terminals : List EmittedTerminal) : Prop :=
  terminals.Pairwise fun terminal other =>
    ¬ PaneMap.Related terminal.virtualPaneId other.virtualPaneId

theorem Apart.same_or_apart {terminals : List EmittedTerminal}
    (apart : Apart terminals) {terminal other : EmittedTerminal}
    (member : terminal ∈ terminals) (otherMember : other ∈ terminals) :
    terminal.virtualPaneId = other.virtualPaneId ∨
      ¬ PaneMap.Related terminal.virtualPaneId other.virtualPaneId := by
  have symmetric : Std.Symm fun terminal other : EmittedTerminal =>
      ¬ PaneMap.Related terminal.virtualPaneId other.virtualPaneId :=
    ⟨fun _ _ apart related => apart related.symm⟩
  by_cases same : terminal = other
  · exact .inl (by rw [same])
  · exact .inr (List.Pairwise.forall apart member otherMember same)

theorem Apart.ids_nodup {terminals : List EmittedTerminal}
    (apart : Apart terminals) :
    (terminals.map EmittedTerminal.virtualPaneId).Nodup := by
  refine List.pairwise_map.mpr (apart.imp fun apart same => apart ?_)
  exact .inl (.inl same)

section Names

variable {panes : PaneMap} {terminals : List EmittedTerminal}

/-- The pane that is found for a terminal. -/
def foundFor (panes : PaneMap) (terminal : EmittedTerminal) : String :=
  (panes.lookup terminal.virtualPaneId).getD ""

theorem lookup_eq_foundFor {terminal : EmittedTerminal} {pane : String}
    (found : panes.lookup terminal.virtualPaneId = some pane) :
    panes.lookup terminal.virtualPaneId = some (foundFor panes terminal) := by
  rw [foundFor, found]
  rfl

/-- Gathering the panes of terminals changes nothing that is found for an id
apart from them. -/
theorem lookup_resolvePanes {id : String}
    (apart : ∀ terminal ∈ terminals, terminal.virtualPaneId = id ∨
      ¬ PaneMap.Related terminal.virtualPaneId id) :
    (resolvePanes panes terminals).2.lookup id = panes.lookup id := by
  induction terminals generalizing panes with
  | nil => rfl
  | cons terminal terminals induction =>
      obtain ⟨here, later⟩ := List.forall_mem_cons.mp apart
      cases found : panes.lookup terminal.virtualPaneId with
      | none => rw [resolvePanes_of_unknown found, induction later]
      | some realId =>
          rw [resolvePanes_of_found found]
          exact (induction later).trans (PaneMap.lookup_resolve here)

/-- For terminals apart from each other the panes are gathered that are found
for them from the start. -/
theorem resolvePanes_of_apart (apart : Apart terminals)
    (found : ∀ terminal ∈ terminals,
      panes.lookup terminal.virtualPaneId = some (foundFor panes terminal)) :
    (resolvePanes panes terminals).1 = terminals.map fun terminal =>
      (terminal.virtualPaneId, foundFor panes terminal) := by
  induction terminals generalizing panes with
  | nil => rfl
  | cons terminal terminals induction =>
      obtain ⟨here, later⟩ := List.forall_mem_cons.mp found
      obtain ⟨isApart, apart⟩ := List.pairwise_cons.mp apart
      have kept : ∀ other ∈ terminals,
          (panes.resolve terminal.virtualPaneId).2.lookup other.virtualPaneId =
            panes.lookup other.virtualPaneId :=
        fun other member => PaneMap.lookup_resolve (.inr (isApart other member))
      have same : ∀ other ∈ terminals,
          foundFor (panes.resolve terminal.virtualPaneId).2 other =
            foundFor panes other := fun other member => by
        rw [foundFor, kept other member, foundFor]
      rw [resolvePanes_of_found here, induction apart fun other member => by
        rw [kept other member, same other member, later other member]]
      rw [List.map_cons, List.map_congr_left fun other member => by
        rw [same other member]]

/-- If a pane is found for each terminal, its name stands for that pane. -/
theorem namedTerminals_of_apart (apart : Apart terminals)
    (found : ∀ terminal ∈ terminals,
      panes.lookup terminal.virtualPaneId = some (foundFor panes terminal)) :
    namedTerminals terminals panes = Entries.ofList (terminals.map
      fun terminal => (terminal.name, foundFor panes terminal)) := by
  have unique : (Entries.keys (terminals.map fun terminal =>
      (terminal.virtualPaneId, foundFor panes terminal))).Nodup := by
    rw [Entries.keys, List.map_map]
    exact apart.ids_nodup
  rw [namedTerminals, Template.namedPanes, resolvePanes_of_apart apart found,
    Entries.ofList_of_nodup unique, List.filterMap_congr fun terminal member =>
      congrArg (Option.map _)
        (Entries.get?_of_mem unique (List.mem_map_of_mem member))]
  exact congrArg Entries.ofList (congrFun List.filterMap_eq_map' terminals)

/-- What replaces a piece is the text that stands for it. -/
theorem stands_of_replacePiece (apart : Apart terminals)
    (found : ∀ terminal ∈ terminals,
      panes.lookup terminal.virtualPaneId = some (foundFor panes terminal))
    {thisPane focusPane : String} {piece : Template.Piece} {text : String}
    (replaced : Template.replacePiece
      ⟨thisPane, focusPane, namedTerminals terminals panes⟩ piece = .ok text) :
    Stands terminals panes thisPane focusPane piece text := by
  cases piece with
  | char c =>
      cases replaced
      exact .char c
  | token token =>
      cases token with
      | thisPane =>
          cases replaced
          exact .thisPane
      | focusPane =>
          cases replaced
          exact .focusPane
      | paneOf name =>
          unfold Template.replacePiece Template.paneOf at replaced
          dsimp only at replaced
          split at replaced
          · next isFound =>
            cases replaced
            rw [namedTerminals_of_apart apart found] at isFound
            obtain ⟨before, after, same, isLast⟩ :=
              Entries.exists_last_of_ofList isFound
            obtain ⟨earlier, _, rfl, rfl, rest⟩ :=
              List.map_eq_append_iff.mp same
            obtain ⟨last, later, rfl, isNamed, rfl⟩ :=
              List.map_eq_cons_iff.mp rest
            obtain ⟨hasName, rfl⟩ := Prod.mk.inj isNamed
            refine .paneOf rfl hasName ?_ (found last (by simp))
            intro other member
            rw [hasName]
            exact isLast _ (List.mem_map_of_mem member)
          · cases replaced

end Names

/-! ### Whole runs -/

namespace Performance

variable {State : Type} {performance : Performance State}
  {built point : Point State} {focusPane : String}
  {terminals : List EmittedTerminal} {result : ReplayResult}

/-- In a run that returns, what is left at a point returns. -/
theorem Reaches.exists_commands {rest : Part ReplayResult}
    (reaches : performance.Reaches point rest)
    (returned : performance.run.ending = .returned result) :
    ∃ events state,
      performance.runPart rest point.state =
        ⟨events, .returned result, state⟩ ∧
      performance.run.commands =
        commandsOf point.events ++ commandsOf events := by
  rw [show performance.run = _ from reaches] at returned ⊢
  refine ⟨_, (performance.runPart rest point.state).state, ?_,
    commandsOf_append _ _⟩
  rw [← show _ = Ending.returned result from returned]

/-- Between its terminals a performance finds what it found at first. -/
theorem Configuring.lookup_eq
    (configuring : performance.Configuring built focusPane terminals point)
    (apart : Apart performance.emission.terminals)
    {terminal : EmittedTerminal}
    (member : terminal ∈ performance.emission.terminals) :
    point.panes.lookup terminal.virtualPaneId =
      built.panes.lookup terminal.virtualPaneId := by
  induction configuring with
  | focused _ _ =>
      exact lookup_resolvePanes fun other isOther =>
        apart.same_or_apart isOther member
  | @terminal other terminals point realId events state configuring _ _
      induction =>
      have isOther := configuring.settled.left other List.mem_cons_self
      rw [← induction]
      exact PaneMap.lookup_resolve (apart.same_or_apart isOther member)

/-- Once no terminal is left, the focus is given to its pane. -/
theorem Configuring.commands_of_nil
    (configuring : performance.Configuring built focusPane [] point)
    (apart : Apart performance.emission.terminals)
    {focus : EmittedTerminal}
    (member : focus ∈ performance.emission.terminals)
    (isFocus : focus.virtualPaneId =
      performance.emission.summary.focusPaneId)
    (returned : performance.run.ending = .returned result) :
    performance.run.commands =
      commandsOf point.events ++ [["select-pane", "-t", focusPane]] := by
  have reached := configuring.reaches
  have found := configuring.lookup_eq apart member
  rw [isFocus, PaneMap.lookup_of_get? configuring.isFocused] at found
  rw [configureAll, Session.pure_eq, Session.ok_bind, finish, restoreFocus,
    PaneMap.resolve_of_found found] at reached
  obtain ⟨_, _, ended, commands⟩ := reached.exists_commands returned
  obtain ⟨_, _, _, _, restored, made, rfl⟩ := Session.exists_of_run_bind ended
  obtain ⟨_, _, _, _, sent, nothing, rfl⟩ :=
    Session.exists_of_run_bind restored
  cases sent_of_run_perform sent
  cases nothing
  cases made
  exact commands

/-- In a run that returns, the terminals that are left are configured in turn,
and the last command gives the focus to its pane. -/
theorem Configuring.exists_parts
    (configuring : performance.Configuring built focusPane terminals point)
    (apart : Apart performance.emission.terminals)
    {focus : EmittedTerminal}
    (member : focus ∈ performance.emission.terminals)
    (isFocus : focus.virtualPaneId =
      performance.emission.summary.focusPaneId)
    (returned : performance.run.ending = .returned result) :
    ∃ parts,
      List.Forall₂
        (ConfiguredBy built.panes fun pane piece text =>
          Template.replacePiece ⟨pane, focusPane, performance.named built⟩
            piece = .ok text)
        terminals parts ∧
      performance.run.commands = commandsOf point.events ++
        (parts.flatten ++ [["select-pane", "-t", focusPane]]) := by
  induction terminals generalizing point with
  | nil =>
      exact ⟨[], .nil, configuring.commands_of_nil apart member isFocus returned⟩
  | cons terminal terminals induction =>
      cases isFound : point.panes.lookup terminal.virtualPaneId with
      | none =>
          rw [configuring.run_of_unknown isFound] at returned
          cases returned
      | some pane =>
          have reached := configuring.reaches
          rw [configureAll_of_found isFound, Session.bind_assoc] at reached
          obtain ⟨events, _, state, configured⟩ :=
            reached.exists_returned returned
          obtain ⟨parts, areParts, commands⟩ :=
            induction (configuring.terminal isFound configured)
          have found := configuring.lookup_eq apart
            (configuring.settled.left terminal List.mem_cons_self)
          refine ⟨commandsOf events :: parts,
            .cons (configuredBy_of_run ?_ configured) areParts, ?_⟩
          · rw [← found, isFound]
          · rw [commands, commandsOf_append, List.flatten_cons,
              List.append_assoc, List.append_assoc]

/-- Nothing is typed until the terminals are configured. -/
theorem Stepping.typesNothing {steps : List Step}
    (stepping : performance.Stepping steps point) :
    ∀ command ∈ commandsOf point.events, command.TypesNothing := by
  induction stepping with
  | @acquired events initial state acquires =>
      obtain ⟨mode, _, acquired⟩ := acquires.acquired
      have quiet := (orderly_acquire performance.request
        performance.emission.summary.initialPaneId mode).forall_commands
          (fun _ call => call.typesNothing) performance.server
          performance.consent performance.start
      rw [runPart] at acquired
      rw [acquired] at quiet
      rwa [commandsOf_append, show commandsOf [.noted _ initial] = [] from rfl,
        List.append_nil]
  | @step step steps point events panes state _ executed induction =>
      have orderly : Orderly (StepCall step) silent _ :=
        orderly_executeStep performance.request point.panes step
      have quiet := orderly.forall_commands (fun _ call => call.typesNothing)
        performance.server performance.consent point.state
      rw [runPart] at executed
      rw [executed] at quiet
      rw [commandsOf_append]
      exact List.forall_mem_append.mpr ⟨induction, quiet⟩

/-- In a run that returns, a pane is recorded for the focus once the steps are
carried out. -/
theorem Stepping.exists_focusPane (stepping : performance.Stepping [] built)
    (returned : performance.run.ending = .returned result) :
    ∃ focusPane, built.panes.get? performance.emission.summary.focusPaneId =
      some focusPane := by
  have reached := stepping.reaches
  rw [executeSteps, Session.pure_eq, Session.ok_bind, conclude,
    configureTerminals] at reached
  cases recorded :
      built.panes.get? performance.emission.summary.focusPaneId with
  | none =>
      rw [recorded] at reached
      obtain ⟨_, _, ended, _⟩ := reached.exists_commands returned
      cases ended
  | some focusPane => exact ⟨focusPane, rfl⟩

/-- Tokens name the panes that a run really uses.  In a run that returns, each
terminal in turn is configured in the pane that is found for it once the steps
are carried out, and in what is typed there its own pane, the pane that is given
the focus by the last command, and the pane of the last terminal of a name stand
for the tokens. -/
theorem tokens_name_panes {source : String} {value : Value}
    {prepared : Prepared}
    (accepted : Prepared.ofValue source value = .ok prepared)
    (isEmission : performance.emission = prepared.emission)
    (returned : performance.run.ending = .returned result) :
    ∃ built focus focusPane parts,
      performance.Stepping [] built ∧
      focus ∈ performance.emission.terminals ∧
      focus.virtualPaneId = performance.emission.summary.focusPaneId ∧
      built.panes.lookup focus.virtualPaneId = some focusPane ∧
      (∀ command ∈ commandsOf built.events, command.TypesNothing) ∧
      List.Forall₂
        (ConfiguredBy built.panes fun pane =>
          Stands performance.emission.terminals built.panes pane focusPane)
        performance.emission.terminals parts ∧
      performance.run.commands = commandsOf built.events ++
        (parts.flatten ++ [["select-pane", "-t", focusPane]]) := by
  have apart : Apart performance.emission.terminals := by
    rw [isEmission]
    exact Prepared.terminals_apart accepted
  obtain ⟨focus, member, isFocus⟩ := Prepared.exists_focused accepted
  rw [← isEmission] at member isFocus
  have shown := Plan.emit_areShown (Prepared.stages_ofValue accepted).2.2
  rw [← isEmission] at shown
  obtain ⟨_, _, _, acquires⟩ := exists_acquires returned
  obtain ⟨_, built, _, stepping⟩ :=
    (Stepping.acquired acquires).exists_carriesOut shown returned
  obtain ⟨focusPane, isFocused⟩ := stepping.exists_focusPane returned
  obtain ⟨parts, areParts, commands⟩ := (Configuring.focused stepping
    isFocused).exists_parts apart member isFocus returned
  have found : ∀ terminal ∈ performance.emission.terminals,
      built.panes.lookup terminal.virtualPaneId =
        some (foundFor built.panes terminal) := by
    have each := areParts.imp fun _ _ configured =>
      And.intro configured.exists_lookup configured
    intro terminal member
    obtain ⟨pane, found⟩ := ((List.forall₂_and_left _ _).mp each).1 terminal
      member
    exact lookup_eq_foundFor found
  refine ⟨built, focus, focusPane, parts, stepping, member, isFocus, ?_,
    stepping.typesNothing, areParts.imp fun terminal part configured => ?_,
    commands⟩
  · rw [isFocus]
    exact PaneMap.lookup_of_get? isFocused
  · exact configured.mono fun pane piece text =>
      stands_of_replacePiece apart found

end Performance

end Replay

/-- A preset whose first command names a terminal of which there are two. -/
def Prepared.namedTwice : Value :=
  .record [
    ("name", .text "Tools"),
    ("layout", .record [
      ("type", .text "vertical"),
      ("ratio", .list [.int 1, .int 1, .int 1]),
      ("panes", .list [
        .record [
          ("name", .text "log"),
          ("command", .text
            "tail \x7b\x7bpane_id: shell \x7d\x7d \x7b\x7bfocus_pane\x7d\x7d")],
        .record [
          ("name", .text "shell"),
          ("focus", .bool true),
          ("command", .text "echo \x7b\x7bthis_pane\x7d\x7d")],
        .record [("name", .text "shell")]])])]

/-- The second terminal of a name is the one that the name stands for. -/
theorem Replay.Performance.tokens_name_namedTwice :
    ∃ prepared, Prepared.ofValue "local" Prepared.namedTwice = .ok prepared ∧
      ["send-keys", "-t", "%1", "tail %3 %2", "Enter"] ∈
        (prepared.performance "" false).run.commands ∧
      ∃ built focusPane parts,
        (prepared.performance "" false).Stepping [] built ∧
        List.Forall₂
          (ConfiguredBy built.panes fun pane =>
            Stands prepared.emission.terminals built.panes pane focusPane)
          prepared.emission.terminals parts ∧
        (prepared.performance "" false).run.commands =
          commandsOf built.events ++
            (parts.flatten ++ [["select-pane", "-t", focusPane]]) := by
  have evaluated : (Prepared.ofValue "local" Prepared.namedTwice).toOption.bind
      (fun prepared => Prepared.returned? (prepared.performance "" false)) =
        some (⟨3, "root.1"⟩, [
          ["new-window", "-P", "-F", paneIdFormat],
          Command.listing,
          Command.dividing .vertical "%1" "-p" "67",
          Command.listing,
          Command.listing,
          Command.dividing .vertical "%2" "-p" "50",
          Command.listing,
          ["select-pane", "-t", "%2"],
          ["send-keys", "-t", "%1", "tail %3 %2", "Enter"],
          ["send-keys", "-t", "%2", "echo %2", "Enter"],
          ["select-pane", "-t", "%2"]]) := by
    decide +kernel
  obtain ⟨prepared, accepted, ending, commands⟩ :=
    Prepared.exists_returned evaluated
  obtain ⟨built, _, focusPane, parts, stepping, _, _, _, _, areParts, sent⟩ :=
    tokens_name_panes accepted rfl ending
  refine ⟨prepared, accepted, ?_, built, focusPane, parts, stepping, areParts,
    sent⟩
  rw [commands]
  decide

end PaneLayout
