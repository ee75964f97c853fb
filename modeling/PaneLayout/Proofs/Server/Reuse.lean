import PaneLayout.Proofs.Server.Rehearsal

/-!
# Ids that a rehearsal hands out

The ids of new panes are made from a number that only grows.  Every id that was
given at the start, or has ever been listed, is made from no number or from a
smaller one.  So no id is handed out again, also after its pane was closed.
-/

namespace PaneLayout.Rehearsal

/-! ### Calls -/

/-- A command to a rehearsal, with its answer and the rehearsal after it. -/
structure Call where
  before : Rehearsal
  command : Command
  answer : Except Fault String
  after : Rehearsal

def call (rehearsal : Rehearsal) (command : Command) : Call where
  before := rehearsal
  command
  answer := (rehearsal.step command).1
  after := (rehearsal.step command).2

/-- The calls for several commands. -/
def calls : Rehearsal → List Command → List Call
  | _, [] => []
  | rehearsal, command :: commands =>
      rehearsal.call command :: calls (rehearsal.call command).after commands

namespace Call

/-- The ids that a call hands out: the answer about a new window, and what a
split adds to the panes. -/
def handedOut (call : Call) : List String :=
  if call.command.head? = some "new-window" then
    call.answer.toOption.toList
  else if call.command.head? = some "split-window" then
    call.after.panes.drop call.before.panes.length
  else
    []

/-- The pane that is kept when the others are closed: the one after the first
`-t`, or else the first. -/
def Keeps (call : Call) (kept : String) : Prop :=
  (∃ before after, call.command = before ++ "-t" :: kept :: after ∧
    "-t" ∉ before) ∨
  ("-t" ∉ call.command ∧ call.before.panes.head? = some kept)

/-- What a call does to the listed panes, and which ids it hands out. -/
structure HasEffect (call : Call) : Prop where
  /-- A new window has one pane. -/
  opens : call.command.head? = some "new-window" →
    ∀ pane, call.answer = .ok pane →
      call.handedOut = [pane] ∧ call.after.panes = [pane]
  /-- A split appends one pane. -/
  divides : call.command.head? = some "split-window" →
    ∀ output, call.answer = .ok output →
      ∃ pane, call.handedOut = [pane] ∧
        call.after.panes = call.before.panes ++ [pane]
  /-- The others are closed. -/
  closes : call.command.head? = some "kill-pane" → "-a" ∈ call.command →
    ∀ kept, call.Keeps kept →
      call.after.panes = call.before.panes.filter (· = kept)
  /-- The panes are listed one per line. -/
  lists : call.command.head? = some "list-panes" →
    call.answer = .ok ("\n".intercalate call.before.panes)
  /-- No other call changes anything. -/
  leaves : call.command.head? ≠ some "new-window" →
    call.command.head? ≠ some "split-window" →
    ¬ (call.command.head? = some "kill-pane" ∧ "-a" ∈ call.command) →
    call.after = call.before
  /-- A call that fails changes nothing. -/
  fails : ∀ cause, call.answer = .error cause → call.after = call.before
  /-- Only a new window and a split hand out ids. -/
  keeps : call.command.head? ≠ some "new-window" →
    call.command.head? ≠ some "split-window" → call.handedOut = []

theorem handedOut_eq_nil {call : Call}
    (notNew : call.command.head? ≠ some "new-window")
    (notSplit : call.command.head? ≠ some "split-window") :
    call.handedOut = [] := by
  rw [handedOut, if_neg notNew, if_neg notSplit]

end Call

/-- What a command is answered, and what it does to a rehearsal. -/
inductive Moves (before : Rehearsal) (command : Command) :
    Except Fault String × Rehearsal → Prop where
  | opens : before.CanName → command.head? = some "new-window" →
      Moves before command
        (.ok (paneName before.nextNumber),
          ⟨[paneName before.nextNumber], before.nextNumber + 1⟩)
  | divides : before.CanName → command.head? = some "split-window" →
      Moves before command (.ok "", before.divided)
  /-- The number of a new pane would be too long. -/
  | unnamed : ¬ before.CanName →
      command.head? = some "new-window" ∨
        command.head? = some "split-window" →
      Moves before command (.error .numeralTooLong, before)
  | closes {kept : String} :
      command.head? = some "kill-pane" → "-a" ∈ command →
      before.keptPane command = .ok kept →
      Moves before command (.ok "", before.closed kept)
  | fails {cause : Fault} :
      command.head? = some "kill-pane" → "-a" ∈ command →
      before.keptPane command = .error cause →
      Moves before command (.error cause, before)
  | idles {output : String} :
      command.head? ≠ some "new-window" →
      command.head? ≠ some "split-window" →
      ¬ (command.head? = some "kill-pane" ∧ "-a" ∈ command) →
      (command.head? = some "list-panes" →
        output = "\n".intercalate before.panes) →
      Moves before command (.ok output, before)

theorem moves_step (before : Rehearsal) (command : Command) :
    before.Moves command (before.step command) := by
  unfold step
  cases command with
  | nil => exact .idles nofun nofun nofun nofun
  | cons name arguments =>
      dsimp only
      split
      · next isNew =>
        by_cases named : before.CanName
        · rw [nextPane_of_canName named]
          exact .opens named (congrArg some isNew)
        · rw [nextPane_of_not_canName named]
          exact .unnamed named (.inl (congrArg some isNew))
      · next notNew =>
        split
        · next isSplit =>
          by_cases named : before.CanName
          · rw [nextPane_of_canName named]
            exact .divides named (congrArg some isSplit)
          · rw [nextPane_of_not_canName named]
            exact .unnamed named (.inr (congrArg some isSplit))
        · next notSplit =>
          have idles {output : String}
              (closesNone : ¬ (name = "kill-pane" ∧
                List.contains (name :: arguments) "-a" = true))
              (lists : name = "list-panes" →
                output = "\n".intercalate before.panes) :
              before.Moves (name :: arguments) (.ok output, before) := by
            rw [List.contains_iff_mem] at closesNone
            exact .idles (fun same => notNew (Option.some.inj same))
              (fun same => notSplit (Option.some.inj same))
              (fun both => closesNone ⟨Option.some.inj both.1, both.2⟩)
              (fun same => lists (Option.some.inj same))
          split
          · next isList =>
            exact idles (by rw [isList]; exact nofun) fun _ => rfl
          · next notList =>
            split
            · next closing =>
              have named := congrArg some closing.1
              have closesOthers := List.contains_iff_mem.mp closing.2
              split
              · next isKept => exact .closes named closesOthers isKept
              · next failed => exact .fails named closesOthers failed
            · next closesNone =>
              split <;>
                exact idles closesNone fun isList => absurd isList notList

theorem keptPane_of_keeps {rehearsal : Rehearsal} {command : Command}
    {kept : String} (keeps : (rehearsal.call command).Keeps kept) :
    rehearsal.keptPane command = .ok kept := by
  unfold keptPane
  rcases keeps with ⟨before, after, rfl, absent⟩ | ⟨absent, isFirst⟩
  · have isTarget : (before ++ "-t" :: kept :: after).contains "-t" = true := by
      simp
    have found : (before ++ "-t" :: kept :: after).dropWhile (· ≠ "-t") =
        "-t" :: kept :: after := by
      rw [List.dropWhile_append_of_pos fun word member => ?_]
      · rfl
      · simpa using ne_of_mem_of_not_mem member absent
    rw [if_pos isTarget, found]
    rfl
  · have noTarget : "-t" ∉ command := absent
    have first : rehearsal.panes.head? = some kept := isFirst
    rw [if_neg (by simpa using noTarget), ← List.head?_eq_getElem?, first]

/-- What a call does follows from what its command does. -/
theorem call_hasEffect (rehearsal : Rehearsal) (command : Command) :
    (rehearsal.call command).HasEffect := by
  have moves := moves_step rehearsal command
  generalize isCall : rehearsal.call command = call
  have isKept {pane : String} (keeps : call.Keeps pane) :
      rehearsal.keptPane command = .ok pane :=
    keptPane_of_keeps (isCall ▸ keeps)
  unfold Rehearsal.call at isCall
  generalize rehearsal.step command = result at moves isCall
  subst isCall
  -- In each field the other commands are excluded by their names.
  constructor
  case opens =>
    intro named pane answered
    cases moves with
    | opens =>
        cases answered
        exact ⟨if_pos named, rfl⟩
    | divides _ other => exact absurd (named.symm.trans other) (by decide)
    | closes other => exact absurd (named.symm.trans other) (by decide)
    | unnamed => cases answered
    | fails => cases answered
    | idles notNew => exact absurd named notNew
  case divides =>
    intro named output answered
    cases moves with
    | opens _ other => exact absurd (named.symm.trans other) (by decide)
    | divides =>
        refine ⟨paneName rehearsal.nextNumber, ?_, rfl⟩
        rw [Call.handedOut, if_neg (by simp [named]), if_pos named]
        exact List.drop_left
    | closes other => exact absurd (named.symm.trans other) (by decide)
    | unnamed => cases answered
    | fails => cases answered
    | idles _ notSplit => exact absurd named notSplit
  case closes =>
    intro named closesOthers pane keeps
    cases moves with
    | opens _ other => exact absurd (named.symm.trans other) (by decide)
    | divides _ other => exact absurd (named.symm.trans other) (by decide)
    | unnamed _ other =>
        rcases other with other | other <;>
          exact absurd (named.symm.trans other) (by decide)
    | closes _ _ found =>
        cases found.symm.trans (isKept keeps)
        rfl
    | fails _ _ found => cases found.symm.trans (isKept keeps)
    | idles _ _ closesNone => exact absurd ⟨named, closesOthers⟩ closesNone
  case lists =>
    intro named
    cases moves with
    | opens _ other => exact absurd (named.symm.trans other) (by decide)
    | divides _ other => exact absurd (named.symm.trans other) (by decide)
    | unnamed _ other =>
        rcases other with other | other <;>
          exact absurd (named.symm.trans other) (by decide)
    | closes other => exact absurd (named.symm.trans other) (by decide)
    | fails other => exact absurd (named.symm.trans other) (by decide)
    | idles _ _ _ lists => rw [lists named]
  case leaves =>
    intro notNew notSplit closesNone
    cases moves with
    | opens _ named => exact absurd named notNew
    | divides _ named => exact absurd named notSplit
    | unnamed => rfl
    | closes named closesOthers =>
        exact absurd ⟨named, closesOthers⟩ closesNone
    | fails => rfl
    | idles => rfl
  case fails =>
    intro cause failed
    cases moves with
    | unnamed => rfl
    | fails => rfl
    | _ => cases failed
  case keeps => exact Call.handedOut_eq_nil

/-! ### Numbers of panes -/

/-- Every id among the panes that is made from a number is made from a smaller
one than the next. -/
def InOrder (rehearsal : Rehearsal) : Prop :=
  ∀ number, paneName number ∈ rehearsal.panes → number < rehearsal.nextNumber

variable {before : Rehearsal}

theorem inOrder_call (ordered : before.InOrder) (command : Command) :
    (before.call command).after.InOrder ∧
      before.nextNumber ≤ (before.call command).after.nextNumber := by
  have moves := moves_step before command
  generalize isStep : before.step command = result at moves
  have isAfter : (before.call command).after = result.2 := by
    rw [call, isStep]
  rw [isAfter]
  have own {number : Nat}
      (member : paneName number ∈ [paneName before.nextNumber]) :
      number < before.nextNumber + 1 := by
    rw [paneName_injective (List.mem_singleton.mp member)]
    exact Nat.lt_succ_self _
  cases moves with
  | opens => exact ⟨fun number => own, Nat.le_succ _⟩
  | divides =>
      refine ⟨fun number member => ?_, Nat.le_succ _⟩
      rcases List.mem_append.mp member with old | new
      · exact Nat.lt_succ_of_lt (ordered number old)
      · exact own new
  | closes =>
      refine ⟨fun number member => ?_, le_rfl⟩
      exact ordered number (List.mem_of_mem_filter member)
  | unnamed => exact ⟨ordered, le_rfl⟩
  | fails => exact ⟨ordered, le_rfl⟩
  | idles => exact ⟨ordered, le_rfl⟩

/-- The ids that a call hands out are the next ones. -/
theorem exists_handedOut_call (before : Rehearsal) (command : Command) :
    ∃ count, (before.call command).handedOut =
        (List.range' before.nextNumber count).map paneName ∧
      (before.call command).after.nextNumber =
        before.nextNumber + count := by
  have moves := moves_step before command
  have none (notNew : command.head? ≠ some "new-window")
      (notSplit : command.head? ≠ some "split-window") :
      (before.call command).handedOut =
        (List.range' before.nextNumber 0).map paneName :=
    Call.handedOut_eq_nil notNew notSplit
  unfold call at none ⊢
  generalize before.step command = result at moves none ⊢
  cases moves with
  | opens _ named =>
      exact ⟨1, if_pos named, rfl⟩
  | divides _ named =>
      refine ⟨1, ?_, rfl⟩
      rw [Call.handedOut, if_neg (by simp [named]), if_pos named]
      exact List.drop_left
  | unnamed _ named =>
      refine ⟨0, ?_, rfl⟩
      rcases named with named | named
      · exact if_pos named
      · rw [Call.handedOut, if_neg (by simp [named]), if_pos named]
        exact List.drop_length
  | closes named => exact ⟨0, none (by simp [named]) (by simp [named]), rfl⟩
  | fails named => exact ⟨0, none (by simp [named]) (by simp [named]), rfl⟩
  | idles notNew notSplit => exact ⟨0, none notNew notSplit, rfl⟩

theorem exists_handedOut_calls (before : Rehearsal) (commands : List Command) :
    ∃ count, (before.calls commands).flatMap Call.handedOut =
      (List.range' before.nextNumber count).map paneName := by
  induction commands generalizing before with
  | nil => exact ⟨0, rfl⟩
  | cons command commands induction =>
      obtain ⟨first, here, next⟩ := exists_handedOut_call before command
      obtain ⟨rest, later⟩ := induction (before.call command).after
      refine ⟨first + rest, ?_⟩
      rw [calls, List.flatMap_cons, here, later, next, ← List.map_append,
        List.range'_append_1]

/-- The panes that were listed up to a call have smaller numbers than those that
are made later. -/
theorem inOrder_calls (ordered : before.InOrder) {commands : List Command}
    {earlier later : List Call} {call : Call}
    (isCall : before.calls commands = earlier ++ call :: later) :
    before.nextNumber ≤ call.before.nextNumber ∧
      (∀ past ∈ earlier, past.after.InOrder ∧
        past.after.nextNumber ≤ call.before.nextNumber) ∧
      call = call.before.call call.command := by
  induction commands generalizing before earlier with
  | nil =>
      rw [calls] at isCall
      cases earlier <;> cases isCall
  | cons command commands induction =>
      obtain ⟨orderedAfter, grows⟩ := inOrder_call ordered command
      rw [calls] at isCall
      cases earlier with
      | nil =>
          cases isCall
          exact ⟨le_rfl, nofun, rfl⟩
      | cons first earlier =>
          obtain ⟨rfl, rest⟩ := List.cons.inj isCall
          obtain ⟨above, past, same⟩ := induction orderedAfter rest
          refine ⟨grows.trans above, List.forall_mem_cons.mpr ⟨?_, past⟩, same⟩
          exact ⟨orderedAfter, above⟩

/-! ### Starts -/

/-- The panes that a rehearsal starts with. -/
def seeded (seeds : List String) : List String :=
  if seeds.isEmpty then [placeholderPane] else seeds

theorem le_foldl_next {next : Nat} {numbers : List (Option Nat)} :
    next ≤ numbers.foldl (fun next number =>
      max next ((number.map (· + 1)).getD 0)) next := by
  induction numbers generalizing next with
  | nil => exact le_rfl
  | cons number numbers induction =>
      exact (le_max_left _ _).trans induction

/-- The first number that is handed out is greater than all that are given. -/
theorem lt_foldl_next {next number : Nat} {numbers : List (Option Nat)}
    (member : some number ∈ numbers) :
    number < numbers.foldl (fun next number =>
      max next ((number.map (· + 1)).getD 0)) next := by
  induction numbers generalizing next with
  | nil => cases member
  | cons first numbers induction =>
      rw [List.foldl_cons]
      rcases List.mem_cons.mp member with rfl | later
      · exact (le_max_right next (number + 1)).trans le_foldl_next
      · exact induction later

/-- The numbers of the seeds are read before the first one is handed out. -/
theorem mem_numbers {panes : List String} {numbers : List (Option Nat)}
    (read : List.Forall₂ (fun pane number => paneNumber pane = .ok number)
      panes numbers) {number : Nat} (member : paneName number ∈ panes) :
    some number ∈ numbers := by
  induction read with
  | nil => cases member
  | cons isNumber _ induction =>
      rcases List.mem_cons.mp member with rfl | later
      · rw [paneNumber_paneName isNumber]
        exact List.mem_cons_self
      · exact List.mem_cons_of_mem _ (induction later)

theorem start_inOrder {seeds : List String} {start : Rehearsal}
    (started : Rehearsal.start seeds = .ok start) :
    start.panes = seeded seeds ∧ start.InOrder := by
  unfold Rehearsal.start at started
  obtain ⟨numbers, areNumbers, made⟩ := exists_of_bind_eq_ok started
  cases made
  exact ⟨rfl, fun number member =>
    lt_foldl_next (mem_numbers (forall₂_of_mapM areNumbers) member)⟩

/-- A rehearsal never hands out an id that it was given, that was listed before,
or that it has handed out already, whatever commands it gets and whichever panes
are closed in between. -/
theorem calls_never_reuse {seeds : List String} {start : Rehearsal}
    (started : Rehearsal.start seeds = .ok start) (commands : List Command) :
    ((start.calls commands).flatMap Call.handedOut).Nodup ∧
      ∀ earlier call later,
        start.calls commands = earlier ++ call :: later →
        call.HasEffect ∧
          ∀ pane ∈ call.handedOut,
            pane ∉ seeds ∧ pane ∉ start.panes ∧
              ∀ past ∈ earlier, pane ∉ past.after.panes := by
  obtain ⟨isSeeded, ordered⟩ := start_inOrder started
  constructor
  · obtain ⟨count, handedOut⟩ := exists_handedOut_calls start commands
    rw [handedOut]
    exact (List.nodup_range' ..).map paneName_injective
  · intro earlier call later isCall
    obtain ⟨above, past, same⟩ := inOrder_calls ordered isCall
    refine ⟨same ▸ call_hasEffect _ _, fun pane member => ?_⟩
    obtain ⟨count, handedOut, _⟩ :=
      exists_handedOut_call call.before call.command
    rw [← same] at handedOut
    rw [handedOut] at member
    obtain ⟨number, inRange, rfl⟩ := List.mem_map.mp member
    have next : call.before.nextNumber ≤ number :=
      (List.mem_range'_1.mp inRange).1
    have notListed : paneName number ∉ start.panes := fun listed =>
      absurd (ordered number listed) (Nat.not_lt.mpr (above.trans next))
    refine ⟨fun given => notListed ?_, notListed, fun call isPast listed => ?_⟩
    · rw [isSeeded, seeded, if_neg (by simpa using List.ne_nil_of_mem given)]
      exact given
    · obtain ⟨orderedThen, below⟩ := past call isPast
      exact absurd (orderedThen number listed)
        (Nat.not_lt.mpr (below.trans next))

/-- After all panes but `%4` are closed, and after a new window, the next
numbers are still greater than those of the closed panes. -/
theorem calls_never_reuse_closed :
    let commands : List Command := [
      ["kill-pane", "-a", "-t", "%4"], ["split-window", "-v", "-t", "%4"],
      ["new-window"], ["split-window", "-h"]]
    ∃ start, Rehearsal.start ["%0", "%4", "%%07"] = .ok start ∧
      (start.calls commands).map Call.handedOut =
        [[], ["%8"], ["%9"], ["%10"]] ∧
      (start.calls commands).map (·.after.panes) =
        [["%4"], ["%4", "%8"], ["%9"], ["%9", "%10"]] ∧
      ((start.calls commands).flatMap Call.handedOut).Nodup ∧
      ∀ earlier call later,
        start.calls commands = earlier ++ call :: later →
        call.HasEffect ∧
          ∀ pane ∈ call.handedOut,
            pane ∉ ["%0", "%4", "%%07"] ∧ pane ∉ start.panes ∧
              ∀ past ∈ earlier, pane ∉ past.after.panes := by
  intro commands
  have started : Rehearsal.start ["%0", "%4", "%%07"] =
      .ok ⟨["%0", "%4", "%%07"], 8⟩ := by decide
  exact ⟨_, started, by decide +kernel, by decide +kernel,
    calls_never_reuse started commands⟩

end PaneLayout.Rehearsal
