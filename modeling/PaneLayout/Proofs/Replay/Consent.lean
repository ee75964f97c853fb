import PaneLayout.Proofs.Replay.Acquire

/-!
# Nothing is closed without consent

Everything that comes after the acquisition of a window neither asks nor closes.
Hence a question or a closing command in a run has the place that the shape of
the acquisition gives it.
-/

namespace PaneLayout

namespace Event

def IsQuestion : Event → Prop
  | .asked _ => True
  | _ => False

def ClosesPanes : Event → Prop
  | .sent command _ => Command.ClosesPanes command
  | _ => False

/-- The event neither asks nor closes panes. -/
def IsHarmless (event : Event) : Prop :=
  ¬ event.IsQuestion ∧ ¬ event.ClosesPanes

theorem IsQuery.isHarmless {event : Event} (query : event.IsQuery) :
    event.IsHarmless := by
  cases event with
  | sent command answer =>
      rcases query with query | query <;>
        simp [IsHarmless, IsQuestion, ClosesPanes, Command.ClosesPanes, query]
  | _ => exact query.elim

end Event

section Harmless

variable {events : List Event}

theorem commandsOf_isQuery (queries : ∀ event ∈ events, event.IsQuery) :
    ∀ command ∈ commandsOf events, command.IsQuery := by
  intro command member
  obtain ⟨event, memberEvent, sent⟩ := List.mem_filterMap.mp member
  cases event with
  | sent other answer =>
      cases sent
      exact queries _ memberEvent
  | _ => cases sent

theorem questions_eq_nil (askNone : ∀ event ∈ events, ¬ event.IsQuestion) :
    events.filterMap Event.question? = [] := by
  refine List.filterMap_eq_nil_iff.mpr fun event member => ?_
  have noQuestion := askNone event member
  cases event <;> simp_all [Event.IsQuestion, Event.question?]

theorem closings_eq_nil (closeNone : ∀ event ∈ events, ¬ event.ClosesPanes) :
    (commandsOf events).filter (·.ClosesPanes) = [] := by
  refine List.filter_eq_nil_iff.mpr fun command member => ?_
  obtain ⟨event, memberEvent, sent⟩ := List.mem_filterMap.mp member
  have noClosing := closeNone event memberEvent
  cases event with
  | sent other answer =>
      cases sent
      simpa [Event.ClosesPanes] using noClosing
  | _ => cases sent

end Harmless

/-- A list in which only one place has a property is divided at that place in
only one way. -/
theorem eq_of_append_cons {α : Type} {property : α → Prop}
    {before after left right : List α} {item only : α}
    (notBefore : ∀ item ∈ before, ¬ property item)
    (notAfter : ∀ item ∈ after, ¬ property item) (holds : property item)
    (same : before ++ only :: after = left ++ item :: right) :
    before = left ∧ only = item ∧ after = right := by
  induction before generalizing left with
  | nil =>
      cases left with
      | nil =>
          obtain ⟨sameItem, sameRest⟩ := List.cons.inj same
          exact ⟨rfl, sameItem, sameRest⟩
      | cons first left =>
          obtain ⟨_, sameRest⟩ := List.cons.inj same
          refine absurd holds (notAfter item ?_)
          rw [sameRest]
          exact List.mem_append_right left List.mem_cons_self
  | cons first before induction =>
      cases left with
      | nil =>
          obtain ⟨sameFirst, _⟩ := List.cons.inj same
          exact absurd (sameFirst ▸ holds) (notBefore _ List.mem_cons_self)
      | cons other left =>
          obtain ⟨sameFirst, sameRest⟩ := List.cons.inj same
          obtain ⟨sameBefore, rest⟩ := induction
            (fun item member => notBefore item (List.mem_cons_of_mem _ member))
            sameRest
          exact ⟨by rw [sameFirst, sameBefore], rest⟩

theorem WindowMode.name_of_ofName? {name : String} {mode : WindowMode}
    (named : ofName? name = some mode) : name = mode.name := by
  unfold ofName? at named
  split at named
  · cases named
    assumption
  · split at named
    · cases named
      assumption
    · cases named

namespace Replay

theorem Allowed.closes_none {request : ReplayRequest}
    {consent : List String → Option Value} {others : List String}
    {questions : List Event}
    (allowed : Allowed request consent others questions) :
    ∀ event ∈ questions, ¬ event.ClosesPanes := by
  cases allowed <;> simp [Event.ClosesPanes]

theorem Allowed.commandsOf_eq_nil {request : ReplayRequest}
    {consent : List String → Option Value} {others : List String}
    {questions : List Event}
    (allowed : Allowed request consent others questions) :
    commandsOf questions = [] := by
  cases allowed <;> rfl

theorem ListsOthers.mono {events moreEvents : List Event} {current : String}
    {others : List String} (lists : ListsOthers events current others)
    (kept : ∀ event ∈ events, event ∈ moreEvents) :
    ListsOthers moreEvents current others := by
  obtain ⟨output, member, rest⟩ := lists
  exact ⟨output, kept _ member, rest⟩

theorem CurrentWindow.divided {request : ReplayRequest}
    {consent : List String → Option Value} {path : String}
    {events : List Event} {ending : Ending ReplayError String}
    (acquires : CurrentWindow request consent path events ending) :
    ∃ queries questions closings,
      events = queries ++ questions ++ closings ∧
      (∀ event ∈ queries, event.IsQuery) ∧
      (questions.length ≤ 1 ∧ ∀ event ∈ questions, ¬ event.ClosesPanes) ∧
      closings.length ≤ 1 ∧ ∀ event ∈ closings, ¬ event.IsQuestion := by
  cases acquires with
  | queried onlyQueries =>
      exact ⟨_, [], [], by simp, onlyQueries, by simp, by simp, by simp⟩
  | @refused queries others _ onlyQueries _ _ =>
      exact ⟨queries, [.asked others], [], by simp, onlyQueries,
        ⟨Nat.le_refl 1, by simp [Event.ClosesPanes]⟩, by simp, by simp⟩
  | closed onlyQueries _ _ allowed =>
      refine ⟨_, _, _, rfl, onlyQueries, ⟨?_, allowed.closes_none⟩,
        Nat.le_refl 1, by simp [Event.IsQuestion]⟩
      cases allowed <;> simp

/-! ### After the acquisition -/

def keepsPanes (site : CallSite) : Prop :=
  ¬ site.command.ClosesPanes

theorem StepCall.keepsPanes {step : Step} {site : CallSite}
    (call : StepCall step site) : keepsPanes site := by
  cases call <;> simp [Replay.keepsPanes, Command.ClosesPanes, listingCall]

theorem TerminalCall.keepsPanes {terminal : EmittedTerminal} {pane : String}
    {site : CallSite} (call : TerminalCall terminal pane site) :
    keepsPanes site := by
  cases call <;> simp [Replay.keepsPanes, Command.ClosesPanes, typingCall]

theorem FocusCall.keepsPanes {focusId : String} {site : CallSite}
    (call : FocusCall focusId site) : keepsPanes site := by
  cases call
  simp [Replay.keepsPanes, Command.ClosesPanes]

theorem orderly_executeSteps (request : ReplayRequest) (steps : List Step)
    (panes : PaneMap) :
    Orderly keepsPanes silent (executeSteps request panes steps) := by
  induction steps generalizing panes with
  | nil => exact .done _
  | cons step steps induction =>
      exact ((orderly_executeStep request panes step).mono
        (fun _ => StepCall.keepsPanes) fun _ => id).bind induction

theorem orderly_configureAll {calls : CallSite → Prop}
    (configures : ∀ terminal pane site, TerminalCall terminal pane site →
      calls site)
    (request : ReplayRequest) (focusPane : String) (named : Entries String)
    (terminals : List EmittedTerminal) (panes : PaneMap) :
    Orderly calls silent
      (configureAll request focusPane named panes terminals) := by
  induction terminals generalizing panes with
  | nil => exact .done _
  | cons terminal terminals induction =>
      unfold configureAll
      rcases panes.resolve terminal.virtualPaneId with ⟨_ | realId, panes⟩
      · exact .done _
      · exact ((orderly_configure request terminal _).mono
          (configures terminal realId) fun _ => id).bind
            fun _ => induction panes

theorem orderly_configureTerminals {calls : CallSite → Prop}
    (configures : ∀ terminal pane site, TerminalCall terminal pane site →
      calls site)
    (request : ReplayRequest) (terminals : List EmittedTerminal)
    (focusId : String) (panes : PaneMap) :
    Orderly calls silent
      (configureTerminals request terminals focusId panes) := by
  unfold configureTerminals
  cases panes.get? focusId with
  | none => exact .done _
  | some focusPane =>
      exact orderly_configureAll configures request focusPane _ _ _

theorem Orderly.isHarmless {α State : Type} {part : Part α}
    (orderly : Orderly keepsPanes silent part) (server : Server State)
    (consent : List String → Option Value) (state : State) :
    ∀ event ∈ (part.run server consent state).events, event.IsHarmless := by
  obtain ⟨calls, asks⟩ := orderly.mem_events server consent state
  intro event member
  refine ⟨?_, ?_⟩
  · cases event with
    | asked panes => exact (asks panes member).elim
    | _ => exact id
  · cases event with
    | sent command answer =>
        obtain ⟨site, keeps, rfl⟩ := calls command answer member
        exact keeps
    | _ => exact id

theorem orderly_acquireNewWindow_harmless (request : ReplayRequest)
    (path : String) :
    Orderly keepsPanes silent (acquireNewWindow request path) :=
  (orderly_perform ⟨_, _, _, _⟩
    (by simp [keepsPanes, Command.ClosesPanes])).bind fun _ => .done _

def afterAcquisition (emission : Emission) (request : ReplayRequest)
    (initial : String) : Part ReplayResult := do
  let panes ← register .empty emission.summary.initialPaneId initial
  let panes ← executeSteps request panes emission.steps
  let panes ← configureTerminals request emission.terminals
    emission.summary.focusPaneId panes
  restoreFocus emission.summary.focusPaneId panes
  return ⟨emission.steps.length, emission.summary.focusPaneId⟩

theorem orderly_afterAcquisition (emission : Emission)
    (request : ReplayRequest) (initial : String) :
    Orderly keepsPanes silent (afterAcquisition emission request initial) := by
  refine .note ?_
  refine (orderly_executeSteps request _ _).bind fun panes => ?_
  refine (orderly_configureTerminals (fun _ _ _ => TerminalCall.keepsPanes)
    request _ _ panes).bind fun panes => ?_
  exact ((orderly_restoreFocus _ panes).mono (fun _ => FocusCall.keepsPanes)
    fun _ => id).bind fun _ => .done _

end Replay

namespace Emission

open Replay

theorem replay_eq (emission : Emission) (request : ReplayRequest) :
    emission.replay request =
      if emission.summary.initialPaneId = "" then
        throw .missingInitialPane
      else
        match WindowMode.ofName? request.mode with
        | none => throw (.unknownMode request.mode)
        | some mode =>
            acquire request emission.summary.initialPaneId mode >>=
              afterAcquisition emission request := rfl

/-- A run whose questions and closing commands all belong to the acquisition of
the current window. -/
structure Careful {State : Type} (request : ReplayRequest)
    (consent : List String → Option Value) (path : String)
    (run : Run ReplayError ReplayResult State)
    (ending : Ending ReplayError String) (acquired rest : List Event) :
    Prop where
  events : run.events = acquired ++ rest
  harmless : ∀ event ∈ rest, event.IsHarmless
  mode : request.mode = WindowMode.currentWindow.name
  acquires : CurrentWindow request consent path acquired ending
  unanswered : ending = .unanswered →
    rest = [] ∧ run.ending = .unanswered
  failed : ∀ error, ending = .failed error →
    rest = [] ∧ run.ending = .failed error

namespace Careful

variable {State : Type} {request : ReplayRequest}
  {consent : List String → Option Value} {path : String}
  {run : Run ReplayError ReplayResult State}
  {ending : Ending ReplayError String} {acquired rest : List Event}

theorem questions_length_le
    (careful : Careful request consent path run ending acquired rest) :
    run.questions.length ≤ 1 := by
  obtain ⟨queries, questions, closings, rfl, onlyQueries, ⟨atMostOne, _⟩, _,
    askNone⟩ := careful.acquires.divided
  rw [Run.questions, careful.events]
  simp only [List.filterMap_append, questions_eq_nil askNone,
    questions_eq_nil fun event member => (careful.harmless event member).1,
    questions_eq_nil fun event member =>
      (onlyQueries event member).isHarmless.1,
    List.nil_append, List.append_nil]
  exact Nat.le_trans (List.length_filterMap_le _ questions) atMostOne

theorem closings_length_le
    (careful : Careful request consent path run ending acquired rest) :
    (run.commands.filter (·.ClosesPanes)).length ≤ 1 := by
  obtain ⟨queries, questions, closings, rfl, onlyQueries, ⟨_, closeNone⟩,
    atMostOne, _⟩ := careful.acquires.divided
  change ((commandsOf run.events).filter _).length ≤ 1
  rw [careful.events]
  simp only [commandsOf_append, List.filter_append,
    closings_eq_nil closeNone,
    closings_eq_nil fun event member => (careful.harmless event member).2,
    closings_eq_nil fun event member =>
      (onlyQueries event member).isHarmless.2,
    List.nil_append, List.append_nil]
  calc ((commandsOf closings).filter (·.ClosesPanes)).length
    _ ≤ (commandsOf closings).length := List.length_filter_le _ _
    _ ≤ closings.length := List.length_filterMap_le _ _
    _ ≤ 1 := atMostOne

/-- Before the question there are only queries.  Unless the answer is the
boolean true, the replay ends with it. -/
theorem of_asked {before after : List Event} {panes : List String}
    (careful : Careful request consent path run ending acquired rest)
    (asked : run.events = before ++ .asked panes :: after) :
    (∀ event ∈ before, event.IsQuery) ∧
      (consent panes = some (.bool true) ∨
        after = [] ∧ Refused consent panes path run.ending) := by
  have isQuestion : (Event.asked panes).IsQuestion := trivial
  have askNoneLater : ∀ event ∈ rest, ¬ event.IsQuestion :=
    fun event member => (careful.harmless event member).1
  rw [careful.events] at asked
  cases careful.acquires with
  | queried onlyQueries =>
      have member : Event.asked panes ∈ acquired ++ rest := by simp [asked]
      rcases List.mem_append.mp member with member | member
      · exact ((onlyQueries _ member).isHarmless.1 isQuestion).elim
      · exact (askNoneLater _ member isQuestion).elim
  | @refused queries others _ onlyQueries _ refused =>
      rw [List.append_assoc, List.singleton_append] at asked
      obtain ⟨rfl, same, rfl⟩ := eq_of_append_cons
        (fun event member => (onlyQueries event member).isHarmless.1)
        askNoneLater isQuestion asked
      cases same
      refine ⟨onlyQueries, .inr ?_⟩
      cases refused with
      | unanswered unanswered =>
          obtain ⟨nothing, ended⟩ := careful.unanswered rfl
          exact ⟨nothing, ended ▸ .unanswered unanswered⟩
      | declined answered notTrue =>
          obtain ⟨nothing, failed⟩ := careful.failed _ rfl
          exact ⟨nothing, failed ▸ .declined answered notTrue⟩
  | @closed queries _ current others answer _ onlyQueries _ _ allowed =>
      have askNone : ∀ event ∈ .sent (closingCommand current) answer :: rest,
          ¬ event.IsQuestion := by
        rintro event (_ | ⟨_, member⟩)
        · exact id
        · exact askNoneLater event member
      cases allowed with
      | unasked _ =>
          have member : Event.asked panes ∈
              queries ++ .sent (closingCommand current) answer :: rest := by
            simpa using congrArg (.asked panes ∈ ·) asked
          rcases List.mem_append.mp member with member | member
          · exact ((onlyQueries _ member).isHarmless.1 isQuestion).elim
          · exact (askNone _ member isQuestion).elim
      | asked _ agreed =>
          rw [List.append_assoc, List.append_assoc] at asked
          obtain ⟨rfl, same, rfl⟩ := eq_of_append_cons
            (fun event member => (onlyQueries event member).isHarmless.1)
            askNone isQuestion asked
          cases same
          exact ⟨onlyQueries, .inl agreed⟩

/-- Panes are closed with leave, knowing the current pane and the others, and
after queries only. -/
theorem of_closing {before after : List Event} {command : Command}
    {answer : Answer}
    (careful : Careful request consent path run ending acquired rest)
    (sent : run.events = before ++ .sent command answer :: after)
    (closes : command.ClosesPanes) :
    (∀ command ∈ commandsOf before, command.IsQuery) ∧
      ∃ current others, command = closingCommand current ∧
        IsCurrent request before current ∧
        ListsOthers before current others ∧
        (request.asks = false ∨
          .asked others ∈ before ∧ consent others = some (.bool true)) := by
  have isClosing : (Event.sent command answer).ClosesPanes := closes
  have closeNoneLater : ∀ event ∈ rest, ¬ event.ClosesPanes :=
    fun event member => (careful.harmless event member).2
  have member : .sent command answer ∈ acquired ++ rest := by
    rw [← careful.events, sent]
    simp
  rw [careful.events] at sent
  cases careful.acquires with
  | queried onlyQueries =>
      rcases List.mem_append.mp member with member | member
      · exact ((onlyQueries _ member).isHarmless.2 isClosing).elim
      · exact (closeNoneLater _ member isClosing).elim
  | refused onlyQueries _ _ =>
      rcases List.mem_append.mp member with member | member
      · rcases List.mem_append.mp member with member | member
        · exact ((onlyQueries _ member).isHarmless.2 isClosing).elim
        · simp at member
      · exact (closeNoneLater _ member isClosing).elim
  | @closed queries questions current others _ _ onlyQueries isCurrent lists
      allowed =>
      have closeNoneBefore : ∀ event ∈ queries ++ questions,
          ¬ event.ClosesPanes := by
        intro event member
        rcases List.mem_append.mp member with member | member
        · exact (onlyQueries event member).isHarmless.2
        · exact allowed.closes_none event member
      rw [List.append_assoc, List.singleton_append] at sent
      obtain ⟨rfl, same, rfl⟩ :=
        eq_of_append_cons closeNoneBefore closeNoneLater isClosing sent
      cases same
      refine ⟨?_, current, others, rfl,
        isCurrent.mono fun _ => List.mem_append_left _,
        lists.mono fun _ => List.mem_append_left _, ?_⟩
      · rw [commandsOf_append, allowed.commandsOf_eq_nil, List.append_nil]
        exact commandsOf_isQuery onlyQueries
      · cases allowed with
        | unasked asksNobody => exact .inl asksNobody
        | asked _ agreed => exact .inr ⟨by simp, agreed⟩

end Careful

theorem careful_bind {State : Type} {request : ReplayRequest}
    {server : Server State} {consent : List String → Option Value}
    {path : String} {state : State} {part : Replay.Part String}
    {continue_ : String → Replay.Part ReplayResult}
    (mode : request.mode = WindowMode.currentWindow.name)
    (acquires : CurrentWindow request consent path
      (part.run server consent state).events
      (part.run server consent state).ending)
    (later : ∀ initial, Orderly keepsPanes silent (continue_ initial)) :
    ∃ rest, Careful request consent path
      ((part >>= continue_).run server consent state)
      (part.run server consent state).ending
      (part.run server consent state).events rest := by
  rw [Session.run_bind]
  cases ending : (part.run server consent state).ending with
  | returned initial =>
      rw [ending] at acquires
      rw [Run.andThen_of_returned ending]
      exact ⟨_, rfl, (later initial).isHarmless server consent _, mode,
        acquires, by simp, by simp⟩
  | failed error =>
      rw [ending] at acquires
      rw [Run.andThen_of_failed ending]
      refine ⟨[], (List.append_nil _).symm, nofun, mode, acquires, nofun, ?_⟩
      rintro _ ⟨⟩
      exact ⟨rfl, rfl⟩
  | unanswered =>
      rw [ending] at acquires
      rw [Run.andThen_of_unanswered ending]
      exact ⟨[], (List.append_nil _).symm, nofun, mode, acquires,
        fun _ => ⟨rfl, rfl⟩, by simp⟩

theorem replay_cases {State : Type} (emission : Emission)
    (request : ReplayRequest) (server : Server State)
    (consent : List String → Option Value) (state : State) :
    (∀ event ∈ ((emission.replay request).run server consent state).events,
      event.IsHarmless) ∨
    ∃ ending acquired rest,
      Careful request consent emission.summary.initialPaneId
        ((emission.replay request).run server consent state) ending acquired
        rest := by
  rw [replay_eq]
  by_cases missing : emission.summary.initialPaneId = ""
  · rw [if_pos missing]
    exact .inl nofun
  · rw [if_neg missing]
    cases named : WindowMode.ofName? request.mode with
    | none => exact .inl nofun
    | some mode =>
        cases mode with
        | newWindow =>
            refine .inl (Orderly.isHarmless ?_ server consent state)
            exact (orderly_acquireNewWindow_harmless request _).bind
              (orderly_afterAcquisition emission request)
        | currentWindow =>
            exact .inr ⟨_, _, careful_bind (WindowMode.name_of_ofName? named)
              (currentWindow_acquire _ _ _ _ state)
              (orderly_afterAcquisition emission request)⟩

/-- Nothing is closed without consent.  A replay asks at most once, after
queries only, and if the answer is not the boolean true then the question is the
last thing that happens; an answer other than that makes the replay fail.  It
closes panes at most once, in the current window only, after queries only, all
but the current pane, when there are others, and nobody was to be asked or the
answer was true. -/
theorem replay_closes_with_consent {State : Type} (emission : Emission)
    (request : ReplayRequest) (server : Server State)
    (consent : List String → Option Value) (state : State) :
    let run := (emission.replay request).run server consent state
    run.questions.length ≤ 1 ∧
      (∀ before panes after, run.events = before ++ .asked panes :: after →
        (∀ event ∈ before, event.IsQuery) ∧
          (consent panes ≠ some (.bool true) → after = []) ∧
          ∀ answer, consent panes = some answer → answer ≠ .bool true →
            ∃ error failure, run.ending = .failed error ∧
              error.problem = .failure failure ∧
              failure.stage = "execution" ∧ failure.code = "USER_CANCELLED" ∧
              failure.details = [("panes", ReplayError.texts panes)]) ∧
      (run.commands.filter (·.ClosesPanes)).length ≤ 1 ∧
      (∀ before command answer after,
        run.events = before ++ .sent command answer :: after →
        Command.ClosesPanes command →
        request.mode = WindowMode.currentWindow.name ∧
          (∀ command ∈ commandsOf before, command.IsQuery) ∧
          ∃ current others, command = ["kill-pane", "-a", "-t", current] ∧
            IsCurrent request before current ∧
            ListsOthers before current others ∧
            (request.asks = false ∨
              .asked others ∈ before ∧ consent others = some (.bool true))) ∧
      (request.mode = WindowMode.newWindow.name →
        run.questions = [] ∧
          ∀ command ∈ run.commands, ¬ Command.ClosesPanes command) := by
  dsimp only
  rcases replay_cases emission request server consent state with
    harmless | ⟨ending, acquired, rest, careful⟩
  · have askNone := questions_eq_nil fun event member =>
      (harmless event member).1
    have closeNone := closings_eq_nil fun event member =>
      (harmless event member).2
    refine ⟨?_, ?_, ?_, ?_, fun _ => ⟨askNone, ?_⟩⟩
    · rw [Run.questions, askNone]
      exact Nat.zero_le 1
    · intro before panes after asked
      exact absurd trivial (harmless (.asked panes) (by simp [asked])).1
    · rw [Run.commands, ← commandsOf, closeNone]
      exact Nat.zero_le 1
    · intro before command answer after sent closes
      exact absurd closes
        (harmless (.sent command answer) (by simp [sent])).2
    · intro command member closes
      exact List.filter_eq_nil_iff.mp closeNone command member
        (decide_eq_true closes)
  · refine ⟨careful.questions_length_le, ?_, careful.closings_length_le, ?_, ?_⟩
    · intro before panes after asked
      obtain ⟨onlyQueries, agreed | ⟨nothing, refused⟩⟩ :=
        careful.of_asked asked
      · exact ⟨onlyQueries, fun notTrue => absurd agreed notTrue,
          fun answer answered notTrue => absurd
            (Option.some.inj (answered.symm.trans agreed)) notTrue⟩
      · refine ⟨onlyQueries, fun _ => nothing, fun answer answered _ => ?_⟩
        generalize ((emission.replay request).run server consent
          state).ending = last at refused
        cases refused with
        | unanswered unanswered =>
            rw [unanswered] at answered
            cases answered
        | declined _ _ => exact ⟨_, _, rfl, rfl, rfl, rfl, rfl⟩
    · intro before command answer after sent closes
      exact ⟨careful.mode, careful.of_closing sent closes⟩
    · intro newWindow
      rw [careful.mode] at newWindow
      simp [WindowMode.name] at newWindow

end Emission

end PaneLayout
