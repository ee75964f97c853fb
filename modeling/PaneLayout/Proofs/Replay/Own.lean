import PaneLayout.Proofs.PaneMap
import PaneLayout.Proofs.Replay.Progress
import PaneLayout.Proofs.Replay.Size
import PaneLayout.Proofs.Session.History

/-!
# A replay only touches its own panes

A replay owns the pane of the window that it acquires and the panes that its
divisions make.  A pane was made by a division if the listing right after the
division shows it and the listing right before does not.  Whatever a server
answers, and whatever the emission says, no other pane is recorded, aimed at, or
put in the place of a token.
-/

namespace PaneLayout

/-- The pane that a command is aimed at. -/
def Command.target? (command : Command) : Option String :=
  (command.dropWhile (· ≠ "-t"))[1]?

/-- The id of the pane that a step is aimed at. -/
def Step.aim? : Step → Option String
  | .split step => step.targetPaneId
  | .focus step => step.targetPaneId
  | .unsupported _ _ => none

def Event.IsListing : Event → Prop
  | .sent command _ => command.head? = some "list-panes"
  | _ => False

namespace Replay

/-- A division was followed at once by a listing with the pane, and the listing
before it was without. -/
def Created (events : List Event) (pane : String) : Prop :=
  ∃ earlier listed between division output relisted later,
    events = earlier ++
      .sent ["list-panes", "-F", paneIdFormat] (.ok listed) ::
        (between ++ .sent division (.ok output) ::
          .sent ["list-panes", "-F", paneIdFormat] (.ok relisted) :: later) ∧
    (∀ event ∈ between, ¬ event.IsListing) ∧
    division.head? = some "split-window" ∧
    pane ∈ listedPanes relisted ∧ pane ∉ listedPanes listed

/-- The pane is the one that the window started with, or a division made it. -/
def Owns (initial : String) (events : List Event) (pane : String) : Prop :=
  pane = initial ∨ Created events pane

theorem Created.mono {events : List Event} {pane : String}
    (created : Created events pane) (more : List Event) :
    Created (events ++ more) pane := by
  obtain ⟨earlier, listed, between, division, output, relisted, later, rfl,
    rest⟩ := created
  exact ⟨earlier, listed, between, division, output, relisted, later ++ more,
    by simp, rest⟩

theorem Created.after {events : List Event} {pane : String}
    (created : Created events pane) (past : List Event) :
    Created (past ++ events) pane := by
  obtain ⟨earlier, listed, between, division, output, relisted, later, rfl,
    rest⟩ := created
  exact ⟨past ++ earlier, listed, between, division, output, relisted, later,
    by simp, rest⟩

theorem Owns.mono {initial pane : String} {events : List Event}
    (owns : Owns initial events pane) (more : List Event) :
    Owns initial (events ++ more) pane :=
  owns.imp_right (·.mono more)

theorem stores_mono {initial : String} {events : List Event} {panes : PaneMap}
    (stores : panes.Stores (Owns initial events)) (more : List Event) :
    panes.Stores (Owns initial (events ++ more)) :=
  PaneMap.Stores.mono stores fun _ owns => owns.mono more

/-- A command is aimed at a pane that is owned. -/
def AimsAtOwn (initial : String) (past : List Event) : Event → Prop
  | .sent command _ =>
      ∀ target, command.target? = some target → Owns initial past target
  | _ => True

/-- If there is a value, it fits what has happened. -/
def valued {α : Type} (property : List Event → α → Prop)
    (events : List Event) : Except ReplayError α → Prop
  | .ok value => property events value
  | .error _ => True

/-- After what is past, a part aims at own panes only, and its value fits what
has happened. -/
def KeepsToOwn {α : Type} (initial : String)
    (property : List Event → α → Prop) (past : List Event) (part : Part α) :
    Prop :=
  part.Heeds (AimsAtOwn initial) (valued property) past

section KeepsToOwn

variable {α β : Type} {initial : String}
  {property : List Event → α → Prop} {laterProperty : List Event → β → Prop}
  {past : List Event} {part : Part α}

theorem keeps_ok {value : α} (fits : property past value) :
    KeepsToOwn initial property past (.done (.ok value)) :=
  .done fits

theorem keeps_error (error : ReplayError) :
    KeepsToOwn initial property past (.done (.error error)) :=
  .done trivial

theorem KeepsToOwn.bind {continue_ : α → Part β}
    (keeps : KeepsToOwn initial property past part)
    (rest : ∀ more value, property (past ++ more) value →
      KeepsToOwn initial laterProperty (past ++ more) (continue_ value)) :
    KeepsToOwn initial laterProperty past (part >>= continue_) :=
  Session.Heeds.bind keeps rest fun _ _ _ => trivial

theorem keeps_ofExcept {result : Except ReplayError α}
    (fits : ∀ value, result = .ok value → property past value) :
    KeepsToOwn initial property past (Session.ofExcept result) := by
  cases result with
  | ok value => exact keeps_ok (fits value rfl)
  | error error => exact keeps_error error

end KeepsToOwn

section Parts

variable {initial : String} {past : List Event} {panes : PaneMap}

/-- The command was sent last, and answered with the output. -/
def answeredWith (past : List Event) (command : Command) (now : List Event)
    (output : String) : Prop :=
  now = past ++ [.sent command (.ok output)]

theorem keeps_perform {command : Command}
    (aimed : ∀ target, command.target? = some target →
      Owns initial past target) (message path : String)
    (details : Entries Value) :
    KeepsToOwn initial (answeredWith past command) past
      (perform command message path details) := by
  refine .send (fun _ => aimed) fun answer => ?_
  cases answer with
  | ok output => exact keeps_ok rfl
  | error error => exact keeps_error _

theorem keeps_listPanes (path : String) :
    KeepsToOwn initial
      (fun now listed => ∃ output,
        answeredWith past ["list-panes", "-F", paneIdFormat] now output ∧
          listed = listedPanes output)
      past (listPanes path) :=
  (keeps_perform (by simp [Command.target?, paneIdFormat]) _ _ _).bind
    fun _ output answered => keeps_ok ⟨output, answered, rfl⟩

theorem keeps_targetPane (role : TargetRole) (stepId : String)
    (target : Option String) (stores : panes.Stores (Owns initial past)) :
    KeepsToOwn initial
      (fun now (found : String × PaneMap) =>
        now = past ∧ Owns initial now found.1 ∧
          found.2.Stores (Owns initial now))
      past (targetPane role stepId target panes) := by
  unfold targetPane
  split
  · exact keeps_error _
  · exact keeps_error _
  · next id _ =>
    cases found : panes.lookup id with
    | none =>
        rw [PaneMap.resolve_of_unknown found]
        exact keeps_error _
    | some realId =>
        rw [PaneMap.resolve_of_found found]
        have owns := stores.of_lookup found
        exact keeps_ok ⟨rfl, owns, stores.register owns⟩

/-- A part whose calls are all aimed at an own pane. -/
theorem Orderly.keepsToOwn {α : Type} {calls : CallSite → Prop} {pane : String}
    {part : Part α} (orderly : Orderly calls silent part)
    (aimed : ∀ site target, calls site → site.command.target? = some target →
      target = pane) (owns : Owns initial past pane) :
    KeepsToOwn initial (fun _ _ => True) past part := by
  induction orderly generalizing past with
  | done result =>
      cases result with
      | ok value => exact keeps_ok trivial
      | error error => exact keeps_error error
  | send call failure _ induction =>
      refine .send (fun _ target isTarget => ?_) fun answer => ?_
      · rwa [aimed _ target call isTarget]
      · cases answer with
        | ok output => exact induction output (owns.mono _)
        | error error =>
            rw [failure error]
            exact keeps_error _
  | ask question => exact question.elim
  | wait _ induction => exact .wait trivial (induction (owns.mono _))
  | note _ induction => exact .note trivial (induction (owns.mono _))

/-- Nothing was listed since. -/
def unlistedSince {α : Type} (past now : List Event) (_ : α) : Prop :=
  ∃ between, now = past ++ between ∧ ∀ event ∈ between, ¬ event.IsListing

/-- The command divides the target, and nothing was listed since. -/
def dividesNext (past : List Event) (target : String) (now : List Event)
    (command : Command) : Prop :=
  command.head? = some "split-window" ∧ command.target? = some target ∧
    unlistedSince past now command

theorem orientation_flag_ne (orientation : Orientation) :
    orientation.flag ≠ "-t" := by
  cases orientation <;> decide

theorem target?_division (orientation : Orientation) (target option size :
    String) :
    Command.target?
      ["split-window", orientation.flag, "-t", target, option, size] =
        some target := by
  simp [Command.target?, orientation_flag_ne]

theorem unlistedSince_self {α : Type} (past : List Event) (value : α) :
    unlistedSince past past value :=
  ⟨[], (List.append_nil past).symm, by simp⟩

theorem keeps_dynamicSize {target : String} (owns : Owns initial past target)
    (request : ReplayRequest) (stepId : String) (orientation : Orientation)
    (sizing : DynamicSizing) :
    KeepsToOwn initial (unlistedSince past) past
      (dynamicSize request stepId orientation sizing target) := by
  rw [dynamicSize_eq]
  refine (keeps_perform (fun other isTarget => ?_) _ _ _).bind
    fun more output answered => keeps_ofExcept fun size _ => ?_
  · cases isTarget
    exact owns
  · exact ⟨_, answered, by simp [Event.IsListing, sizeQuery]⟩

theorem keeps_splitCommand {target : String} (owns : Owns initial past target)
    (request : ReplayRequest) (step : SplitStep) :
    KeepsToOwn initial (dividesNext past target) past
      (splitCommand request step target) := by
  have sized : ∀ (orientation : Orientation) (option : String)
      {α : Type} (size : Part α) (text : α → String),
      KeepsToOwn initial (unlistedSince past) past size →
      KeepsToOwn initial (dividesNext past target) past
        (size >>= fun value => (pure
          ["split-window", orientation.flag, "-t", target, option,
            text value] : Part Command)) :=
    fun orientation option _ size text keeps =>
      keeps.bind fun more value unlisted =>
        keeps_ok ⟨rfl, target?_division _ _ _ _, unlisted⟩
  unfold splitCommand
  split
  · exact keeps_error _
  · dsimp only
    split
    · exact sized _ "-l" _ id (keeps_dynamicSize owns _ _ _ _)
    · exact sized _ "-p" _ toString
        (keeps_ofExcept fun value _ => unlistedSince_self past value)
    · exact sized _ "-p" _ toString
        (keeps_ofExcept fun value _ => unlistedSince_self past value)
    · exact keeps_error _

theorem keeps_register (stores : panes.Stores (Owns initial past))
    {realId : String} (owns : Owns initial past realId) (virtualId : String) :
    KeepsToOwn initial (fun now panes => panes.Stores (Owns initial now)) past
      (register panes virtualId realId) := by
  refine .note trivial (keeps_ok ?_)
  exact (stores_mono stores _).register (owns.mono _)

theorem created_of_find? {listed relisted output pane : String}
    {between : List Event} {division : Command}
    (quiet : ∀ event ∈ between, ¬ event.IsListing)
    (divides : division.head? = some "split-window")
    (found : (listedPanes relisted).find?
      (fun pane => !(listedPanes listed).contains pane) = some pane) :
    Created
      (past ++ [.sent ["list-panes", "-F", paneIdFormat] (.ok listed)] ++
        between ++ [.sent division (.ok output)] ++
          [.sent ["list-panes", "-F", paneIdFormat] (.ok relisted)]) pane := by
  have isNew := List.find?_some found
  rw [Bool.not_eq_true', List.contains_eq_mem, decide_eq_false_iff_not] at isNew
  exact ⟨past, listed, between, division, output, relisted, [], by simp, quiet,
    divides, List.mem_of_find?_eq_some found, isNew⟩

/-- A division records the pane that it made. -/
theorem keeps_splitPane (stores : panes.Stores (Owns initial past))
    (request : ReplayRequest) (step : SplitStep) :
    KeepsToOwn initial (fun now panes => panes.Stores (Owns initial now)) past
      (splitPane request step panes) := by
  unfold splitPane
  refine (keeps_targetPane _ _ _ stores).bind ?_
  rintro more ⟨target, panes⟩ ⟨_, owns, stores⟩
  generalize past ++ more = past at owns stores
  refine (keeps_listPanes step.id).bind ?_
  rintro more _ ⟨listed, answered, rfl⟩
  refine (keeps_splitCommand (owns.mono more) request step).bind ?_
  rintro others command ⟨divides, isTarget, between, unlisted, quiet⟩
  have same := List.append_cancel_left unlisted
  subst same
  -- What happened in the parts is pieced together for `Created` at the end.
  refine (keeps_perform (fun other isOther => ?_) _ _ _).bind ?_
  · rw [isTarget] at isOther
    cases isOther
    exact (owns.mono more).mono others
  · intro sent output divided
    refine (keeps_listPanes step.id).bind ?_
    rintro last _ ⟨relisted, reanswered, rfl⟩
    have stores := stores_mono (stores_mono
      (stores_mono (stores_mono stores more) others) sent) last
    rw [reanswered, divided, answered] at stores ⊢
    split
    · exact keeps_error _
    · next created found =>
      split
      · exact keeps_ok stores
      · exact keeps_ok stores
      · refine keeps_register stores (.inr ?_) _
        exact created_of_find? quiet divides found

theorem keeps_focusPane (stores : panes.Stores (Owns initial past))
    (step : FocusStep) :
    KeepsToOwn initial (fun now panes => panes.Stores (Owns initial now)) past
      (focusPane step panes) := by
  unfold focusPane
  refine (keeps_targetPane _ _ _ stores).bind ?_
  rintro more ⟨target, panes⟩ ⟨_, owns, stores⟩
  refine (keeps_perform (fun other isOther => ?_) _ _ _).bind ?_
  · cases isOther
    exact owns
  · exact fun more _ _ => keeps_ok (stores_mono stores more)

theorem keeps_executeStep (stores : panes.Stores (Owns initial past))
    (request : ReplayRequest) (step : Step) :
    KeepsToOwn initial (fun now panes => panes.Stores (Owns initial now)) past
      (executeStep request panes step) := by
  cases step with
  | split step => exact keeps_splitPane stores request step
  | focus step => exact keeps_focusPane stores step
  | unsupported kind id => exact keeps_error _

theorem keeps_executeSteps (stores : panes.Stores (Owns initial past))
    (request : ReplayRequest) (steps : List Step) :
    KeepsToOwn initial (fun now panes => panes.Stores (Owns initial now)) past
      (executeSteps request panes steps) := by
  induction steps generalizing past panes with
  | nil => exact keeps_ok stores
  | cons step steps induction =>
      exact (keeps_executeStep stores request step).bind
        fun _ _ stores => induction stores

/-! ### Terminals -/

theorem TerminalCall.target?_eq {terminal : EmittedTerminal} {pane : String}
    {site : CallSite} (call : TerminalCall terminal pane site) :
    site.command.target? = some pane := by
  cases call <;> simp [Command.target?, typingCall]

theorem keeps_configure {tokens : TokenPanes}
    (owns : Owns initial past tokens.thisPane) (request : ReplayRequest)
    (terminal : EmittedTerminal) :
    KeepsToOwn initial (fun _ _ => True) past
      (configure request terminal tokens) :=
  (orderly_configure request terminal tokens).keepsToOwn
    (fun _ _ call isTarget =>
      Option.some.inj (isTarget.symm.trans call.target?_eq)) owns

theorem keeps_configureAll (stores : panes.Stores (Owns initial past))
    (request : ReplayRequest) (focusPane : String) (named : Entries String)
    (terminals : List EmittedTerminal) :
    KeepsToOwn initial (fun now panes => panes.Stores (Owns initial now)) past
      (configureAll request focusPane named panes terminals) := by
  induction terminals generalizing past panes with
  | nil => exact keeps_ok stores
  | cons terminal terminals induction =>
      cases found : panes.lookup terminal.virtualPaneId with
      | none =>
          rw [configureAll_of_unknown found]
          exact keeps_error _
      | some realId =>
          rw [configureAll_of_found found]
          refine (keeps_configure (stores.of_lookup found) _ _).bind
            fun more _ _ => induction ?_
          exact stores_mono (stores.resolve _) more

/-- Only known panes are recorded when all terminals are looked up, and only
known ones are found. -/
theorem stores_resolvePanes {property : String → Prop}
    (stores : panes.Stores property) (terminals : List EmittedTerminal) :
    (resolvePanes panes terminals).2.Stores property ∧
      ∀ entry ∈ (resolvePanes panes terminals).1, property entry.2 := by
  induction terminals generalizing panes with
  | nil => exact ⟨stores, by simp [resolvePanes]⟩
  | cons terminal terminals induction =>
      cases found : panes.lookup terminal.virtualPaneId with
      | none =>
          rw [resolvePanes, PaneMap.resolve_of_unknown found]
          exact induction stores
      | some realId =>
          rw [resolvePanes, PaneMap.resolve_of_found found]
          have new := stores.of_lookup found
          obtain ⟨kept, resolved⟩ := induction (stores.register new)
          exact ⟨kept, List.forall_mem_cons.mpr ⟨new, resolved⟩⟩

theorem forall_namedTerminals {property : String → Prop}
    (stores : panes.Stores property) (terminals : List EmittedTerminal) :
    ∀ entry ∈ namedTerminals terminals panes, property entry.2 := by
  have resolved :=
    Entries.forall_ofList (stores_resolvePanes stores terminals).2
  refine Entries.forall_ofList fun entry member => ?_
  obtain ⟨terminal, _, found⟩ := List.mem_filterMap.mp member
  obtain ⟨pane, known, rfl⟩ := Option.map_eq_some_iff.mp found
  exact resolved (terminal.virtualPaneId, pane) (Entries.mem_of_get? known)

theorem keeps_restoreFocus (stores : panes.Stores (Owns initial past))
    (focusId : String) :
    KeepsToOwn initial (fun _ _ => True) past (restoreFocus focusId panes) := by
  unfold restoreFocus
  cases found : panes.lookup focusId with
  | none =>
      rw [PaneMap.resolve_of_unknown found]
      exact keeps_ok trivial
  | some realId =>
      rw [PaneMap.resolve_of_found found]
      refine (keeps_perform (fun other isOther => ?_) _ _ _).bind
        fun _ _ _ => keeps_ok trivial
      cases isOther
      exact stores.of_lookup found

theorem keeps_conclude (stores : panes.Stores (Owns initial past))
    (emission : Emission) (request : ReplayRequest) :
    KeepsToOwn initial (fun _ _ => True) past
      (conclude emission request panes) := by
  cases isFocused : panes.get? emission.summary.focusPaneId with
  | none =>
      rw [conclude, configureTerminals, isFocused]
      exact keeps_error _
  | some focusPane =>
      rw [conclude_of_focused isFocused]
      refine (keeps_configureAll (stores_resolvePanes stores _).1 _ _ _ _).bind
        fun _ _ stores => ?_
      exact (keeps_restoreFocus stores _).bind fun _ _ _ => keeps_ok trivial

theorem keeps_afterAcquisition (emission : Emission)
    (request : ReplayRequest) (initial : String) (past : List Event) :
    KeepsToOwn initial (fun _ _ => True) past
      (afterAcquisition emission request initial) := by
  rw [afterAcquisition_eq]
  refine .note trivial ((keeps_executeSteps ?_ _ _).bind
    fun _ _ stores => keeps_conclude stores _ _)
  exact PaneMap.stores_empty.register (.inl rfl)

end Parts

/-! ### Whole runs -/

namespace Performance

variable {State : Type} (performance : Performance State)

/-- The pane belongs to the performance once the events have happened. -/
def Owns (events : List Event) (pane : String) : Prop :=
  ∃ acquiring initial state,
    performance.Acquires acquiring initial state ∧
      Replay.Owns initial events pane

/-- What is recorded at some time, with what has happened by then. -/
inductive Records : List Event → PaneMap → Prop where
  | stepping {steps : List Step} {point : Point State} :
      performance.Stepping steps point → Records point.events point.panes
  /-- The target of a step was looked up. -/
  | aimed {step : Step} {steps : List Step} {point : Point State}
      {target : String} :
      performance.Stepping (step :: steps) point → step.aim? = some target →
      Records point.events (point.panes.resolve target).2
  /-- The first terminals were looked up for their names. -/
  | naming {built : Point State} {terminals : List EmittedTerminal} :
      performance.Stepping [] built →
      terminals <+: performance.emission.terminals →
      Records built.events (resolvePanes built.panes terminals).2
  | configuring {built point : Point State} {focusPane : String}
      {terminals : List EmittedTerminal} :
      performance.Configuring built focusPane terminals point →
      Records point.events point.panes
  /-- A terminal was looked up at its turn. -/
  | found {built point : Point State} {focusPane : String}
      {terminal : EmittedTerminal} {terminals : List EmittedTerminal} :
      performance.Configuring built focusPane (terminal :: terminals) point →
      Records point.events (point.panes.resolve terminal.virtualPaneId).2
  /-- The focused pane was looked up in the end. -/
  | restoring {built point : Point State} {focusPane : String} :
      performance.Configuring built focusPane [] point →
      Records point.events
        (point.panes.resolve performance.emission.summary.focusPaneId).2

variable {performance}

theorem Acquires.unique {events others : List Event} {initial other : String}
    {state next : State} (acquires : performance.Acquires events initial state)
    (again : performance.Acquires others other next) : initial = other := by
  obtain ⟨mode, isMode, acquired⟩ := acquires.acquired
  obtain ⟨mode, isAgain, acquiredAgain⟩ := again.acquired
  cases isMode.symm.trans isAgain
  cases acquired.symm.trans acquiredAgain
  rfl

/-- What a part returns fits what has happened when it is reached. -/
theorem fits_of_returned {α : Type} {initial : String}
    {property : List Event → α → Prop} {past events : List Event}
    {part : Part α} {state next : State} {value : α}
    (keeps : KeepsToOwn initial property past part)
    (returned : performance.runPart part state =
      ⟨events, .returned value, next⟩) :
    property (past ++ events) value :=
  Session.Heeds.fits_of_returned keeps returned

theorem Stepping.exists_stores {steps : List Step} {point : Point State}
    (stepping : performance.Stepping steps point) :
    ∃ acquiring initial state,
      performance.Acquires acquiring initial state ∧
        point.panes.Stores (Replay.Owns initial point.events) := by
  induction stepping with
  | acquired acquires =>
      exact ⟨_, _, _, acquires, PaneMap.stores_empty.register (.inl rfl)⟩
  | step _ executed induction =>
      obtain ⟨acquiring, initial, state, acquires, stores⟩ := induction
      exact ⟨acquiring, initial, state, acquires,
        fits_of_returned (keeps_executeStep stores _ _) executed⟩

theorem Configuring.stores {built point : Point State} {focusPane : String}
    {terminals : List EmittedTerminal} {acquiring : List Event}
    {initial : String} {state : State}
    (configuring : performance.Configuring built focusPane terminals point)
    (acquires : performance.Acquires acquiring initial state) :
    point.panes.Stores (Replay.Owns initial point.events) ∧
      built.events <+: point.events := by
  induction configuring with
  | focused stepping _ =>
      obtain ⟨_, _, _, again, stores⟩ := stepping.exists_stores
      cases acquires.unique again
      exact ⟨(stores_resolvePanes stores _).1, List.prefix_rfl⟩
  | terminal _ found configured induction =>
      obtain ⟨stores, isPrefix⟩ := induction
      exact ⟨stores_mono (stores.resolve _) _,
        isPrefix.trans (List.prefix_append _ _)⟩

/-- Whatever is put in the place of a token is owned. -/
theorem Configuring.owns_token {built point : Point State}
    {focusPane realId : String} {terminal : EmittedTerminal}
    {terminals : List EmittedTerminal}
    (configuring : performance.Configuring built focusPane
      (terminal :: terminals) point)
    (found : point.panes.lookup terminal.virtualPaneId = some realId)
    {token : Template.Token} {pane : String}
    (replaced : Template.paneOf
      ⟨realId, focusPane, performance.named built⟩ token = .ok pane) :
    performance.Owns point.events pane := by
  obtain ⟨acquiring, initial, state, acquires, stores⟩ :=
    configuring.stepping.exists_stores
  obtain ⟨laterStores, more, later⟩ := configuring.stores acquires
  refine ⟨acquiring, initial, state, acquires, ?_⟩
  cases token with
  | thisPane =>
      cases replaced
      exact laterStores.of_lookup found
  | focusPane =>
      cases replaced
      rw [← later]
      exact (stores.of_get? configuring.isFocused).mono more
  | paneOf raw =>
      simp only [Template.paneOf] at replaced
      split at replaced
      · next known =>
        cases replaced
        rw [← later]
        exact (forall_namedTerminals stores _ _
          (Entries.mem_of_get? known)).mono more
      · cases replaced

/-- All that is ever recorded is owned. -/
theorem Records.stores {events : List Event} {panes : PaneMap}
    (records : performance.Records events panes) :
    panes.Stores (performance.Owns events) := by
  have owned : ∀ {acquiring initial state} {panes : PaneMap},
      performance.Acquires acquiring initial state →
      panes.Stores (Replay.Owns initial events) →
      panes.Stores (performance.Owns events) :=
    fun acquires stores => stores.mono fun _ owns => ⟨_, _, _, acquires, owns⟩
  cases records with
  | stepping stepping =>
      obtain ⟨_, _, _, acquires, stores⟩ := stepping.exists_stores
      exact owned acquires stores
  | aimed stepping _ =>
      obtain ⟨_, _, _, acquires, stores⟩ := stepping.exists_stores
      exact owned acquires (stores.resolve _)
  | naming stepping _ =>
      obtain ⟨_, _, _, acquires, stores⟩ := stepping.exists_stores
      exact owned acquires (stores_resolvePanes stores _).1
  | configuring configuring =>
      obtain ⟨_, _, _, acquires, _⟩ := configuring.stepping.exists_stores
      exact owned acquires (configuring.stores acquires).1
  | found configuring =>
      obtain ⟨_, _, _, acquires, _⟩ := configuring.stepping.exists_stores
      exact owned acquires ((configuring.stores acquires).1.resolve _)
  | restoring configuring =>
      obtain ⟨_, _, _, acquires, _⟩ := configuring.stepping.exists_stores
      exact owned acquires ((configuring.stores acquires).1.resolve _)

/-- What is recorded is recorded in the course of the run. -/
theorem Records.isPrefix {events : List Event} {panes : PaneMap}
    (records : performance.Records events panes) :
    events <+: performance.run.events := by
  cases records with
  | stepping stepping => exact stepping.reaches.isPrefix
  | aimed stepping _ => exact stepping.reaches.isPrefix
  | naming stepping _ => exact stepping.reaches.isPrefix
  | configuring configuring => exact configuring.reaches.isPrefix
  | found configuring => exact configuring.reaches.isPrefix
  | restoring configuring => exact configuring.reaches.isPrefix

theorem AcquiringCall.target?_eq_none {request : ReplayRequest} {path : String}
    {site : CallSite} (call : AcquiringCall request path site)
    (keeps : site.command.head? ≠ some "kill-pane") :
    site.command.target? = none := by
  cases call with
  | currentPane => simp [Command.target?, paneIdFormat]
  | listing => simp [Command.target?, listingCall, paneIdFormat]
  | closing current => simp at keeps
  | newWindow =>
      unfold windowNameWords
      split
      · split
        · simp [Command.target?, paneIdFormat]
        · have short : ∀ word : String,
              (([word] : Command).dropWhile (· ≠ "-t")).length ≤ 1 :=
            fun word => (List.dropWhile_sublist _).length_le
          simpa [Command.target?, paneIdFormat] using short _
      · simp [Command.target?, paneIdFormat]

/-- While a window is acquired only the command that closes panes is aimed. -/
theorem target?_acquiring {mode : WindowMode} {command : Command}
    {answer : Answer}
    (sent : .sent command answer ∈ (performance.runPart
      (acquire performance.request performance.emission.summary.initialPaneId
        mode) performance.start).events)
    (keeps : command.head? ≠ some "kill-pane") : command.target? = none := by
  obtain ⟨site, call, rfl⟩ := ((orderly_acquire performance.request _
    mode).mem_events performance.server performance.consent
      performance.start).1 _ _ sent
  exact AcquiringCall.target?_eq_none call keeps

/-- Nothing happens in a replay that does not set out to acquire a window. -/
theorem replay_acquires {event : Event}
    (happened : event ∈ performance.run.events) :
    ∃ mode, WindowMode.ofName? performance.request.mode = some mode ∧
      performance.emission.summary.initialPaneId ≠ "" := by
  by_cases hasInitial : performance.emission.summary.initialPaneId = ""
  · rw [run, runPart, Emission.replay_eq, if_pos hasInitial] at happened
    cases happened
  · cases isMode : WindowMode.ofName? performance.request.mode with
    | none =>
        rw [run, runPart, Emission.replay_eq, if_neg hasInitial,
          isMode] at happened
        cases happened
    | some mode => exact ⟨mode, rfl, hasInitial⟩

/-- A command that closes no panes is aimed at an own pane, if it is aimed. -/
theorem owns_target {before after : List Event} {command : Command}
    {answer : Answer} {target : String}
    (events : performance.run.events =
      before ++ .sent command answer :: after)
    (keeps : command.head? ≠ some "kill-pane")
    (isTarget : command.target? = some target) :
    performance.Owns before target := by
  have happened : .sent command answer ∈ performance.run.events := by
    rw [events]
    exact List.mem_append_right _ List.mem_cons_self
  obtain ⟨mode, isMode, hasInitial⟩ := replay_acquires happened
  rw [run, replay_of_acquires hasInitial isMode, runPart,
    Session.run_bind] at events
  generalize acquiring : Session.run performance.server performance.consent
    (acquire performance.request
      performance.emission.summary.initialPaneId mode)
    performance.start = acquired at events
  -- So the command was sent once the pane was acquired.
  have untargeted : .sent command answer ∉ acquired.events := by
    intro sent
    rw [← acquiring] at sent
    rw [target?_acquiring sent keeps] at isTarget
    cases isTarget
  obtain ⟨initial, later, returned, rfl, rest⟩ :=
    Run.exists_of_andThen_events events untargeted
  have acquires : performance.Acquires acquired.events initial
      acquired.state :=
    ⟨hasInitial, mode, isMode, by rw [runPart, acquiring, ← returned]⟩
  have keepsToOwn := keeps_afterAcquisition performance.emission
    performance.request initial acquired.events
  exact ⟨_, _, _, acquires, keepsToOwn.allowed_of_run performance.server
    performance.consent acquired.state rest target isTarget⟩

end Performance

/-- A replay only touches its own panes: at every time of its run the panes that
commands are aimed at, that are recorded, and that are put in the place of a
token.  Only the command that closes panes to make room is not aimed so. -/
theorem Performance.touches_own {State : Type}
    (performance : Performance State) :
    (∀ before command answer after target,
      performance.run.events = before ++ .sent command answer :: after →
      command.head? ≠ some "kill-pane" → command.target? = some target →
      performance.Owns before target) ∧
    (∀ events panes, performance.Records events panes →
      events <+: performance.run.events ∧
        ∀ entry ∈ panes.entries, performance.Owns events entry.2) ∧
    (∀ built point focusPane realId terminal terminals token pane,
      performance.Configuring built focusPane (terminal :: terminals) point →
      point.panes.lookup terminal.virtualPaneId = some realId →
      Template.paneOf ⟨realId, focusPane, performance.named built⟩ token =
        .ok pane →
      performance.Owns point.events pane) :=
  ⟨fun _ _ _ _ _ => owns_target,
    fun _ _ records => ⟨records.isPrefix, records.stores⟩,
    fun _ _ _ _ _ _ _ _ configuring found => configuring.owns_token found⟩

end Replay

end PaneLayout
