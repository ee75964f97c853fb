import PaneLayout.Proofs.PaneMap
import PaneLayout.Proofs.Replay.Progress
import PaneLayout.Proofs.Session.History
import PaneLayout.Server.Scripted

/-!
# Terminals with and without a name

All terminals are looked up twice: once in advance, for the names that tokens
may use, and again when their turn comes.  A lookup records what it finds, so
that a terminal may have a pane at its turn although it had none in advance.
This happens exactly if a pane was found in advance for a terminal above it.
-/

namespace PaneLayout

namespace Replay

open PaneMap

section Lookups

variable {panes : PaneMap} {terminals : List EmittedTerminal}
  {terminal : EmittedTerminal} {id realId : String}

theorem resolvePanes_of_found
    (found : panes.lookup terminal.virtualPaneId = some realId)
    (terminals : List EmittedTerminal) :
    resolvePanes panes (terminal :: terminals) =
      ((terminal.virtualPaneId, realId) ::
        (resolvePanes (panes.resolve terminal.virtualPaneId).2 terminals).1,
        (resolvePanes (panes.resolve terminal.virtualPaneId).2
          terminals).2) := by
  simp only [resolvePanes, PaneMap.resolve, found]

theorem resolvePanes_of_unknown
    (unknown : panes.lookup terminal.virtualPaneId = none)
    (terminals : List EmittedTerminal) :
    resolvePanes panes (terminal :: terminals) =
      resolvePanes panes terminals := by
  simp only [resolvePanes, PaneMap.resolve, unknown]

/-- What terminals were looked up leaves the rest to be looked up as before. -/
theorem resolvePanes_append (earlier later : List EmittedTerminal) :
    resolvePanes panes (earlier ++ later) =
      ((resolvePanes panes earlier).1 ++
        (resolvePanes (resolvePanes panes earlier).2 later).1,
        (resolvePanes (resolvePanes panes earlier).2 later).2) := by
  induction earlier generalizing panes with
  | nil => rfl
  | cons terminal earlier induction =>
      rw [List.cons_append]
      cases found : panes.lookup terminal.virtualPaneId with
      | none =>
          rw [resolvePanes_of_unknown found, resolvePanes_of_unknown found,
            induction]
      | some realId =>
          rw [resolvePanes_of_found found, resolvePanes_of_found found,
            induction]
          rfl

theorem keys_nodup_resolvePanes (unique : panes.entries.keys.Nodup)
    (terminals : List EmittedTerminal) :
    (resolvePanes panes terminals).2.entries.keys.Nodup := by
  induction terminals generalizing panes with
  | nil => exact unique
  | cons terminal terminals induction =>
      cases found : panes.lookup terminal.virtualPaneId with
      | none =>
          rw [resolvePanes_of_unknown found]
          exact induction unique
      | some realId =>
          rw [resolvePanes_of_found found]
          exact induction (keys_nodup_resolve unique _)

/-- Looking up terminals records a pane for those that one is found for, and for
no other id. -/
theorem has_resolvePanes :
    (resolvePanes panes terminals).2.has id = true ↔
      panes.has id = true ∨ id ∈ (resolvePanes panes terminals).1.keys := by
  induction terminals generalizing panes with
  | nil => simp [resolvePanes, Entries.keys]
  | cons terminal terminals induction =>
      cases found : panes.lookup terminal.virtualPaneId with
      | none =>
          rw [resolvePanes_of_unknown found]
          exact induction
      | some realId =>
          have isFound :
              (panes.lookup terminal.virtualPaneId).isSome = true := by
            rw [found, Option.isSome_some]
          rw [resolvePanes_of_found found, induction, has_resolve isFound]
          have longer : ∀ rest, id ∈ Entries.keys
              ((terminal.virtualPaneId, realId) :: rest) ↔
                terminal.virtualPaneId = id ∨ id ∈ Entries.keys rest :=
            fun rest => List.mem_cons.trans (or_congr eq_comm Iff.rfl)
          rw [longer, or_assoc, or_left_comm]

/-- An id that becomes known through lookups is below a terminal that one of
them found. -/
theorem exists_above_of_found (unique : panes.entries.keys.Nodup)
    (unknown : panes.lookup id = none)
    (found : ((resolvePanes panes terminals).2.lookup id).isSome = true) :
    ∃ above, above ∈ (resolvePanes panes terminals).1.keys ∧
      isAncestor above id = true := by
  induction terminals generalizing panes with
  | nil => rw [resolvePanes, unknown] at found; cases found
  | cons terminal terminals induction =>
      cases isTerminal : panes.lookup terminal.virtualPaneId with
      | none =>
          rw [resolvePanes_of_unknown isTerminal] at found ⊢
          exact induction unique unknown found
      | some realId =>
          rw [resolvePanes_of_found isTerminal] at found ⊢
          have uniqueNext := keys_nodup_resolve unique terminal.virtualPaneId
          cases next :
            (panes.resolve terminal.virtualPaneId).2.lookup id with
          | none =>
              obtain ⟨above, member, isAbove⟩ :=
                induction uniqueNext next found
              exact ⟨above, List.mem_cons_of_mem _ member, isAbove⟩
          | some _ =>
              -- The terminal itself joins the id to what was recorded.
              exact ⟨terminal.virtualPaneId, List.mem_cons_self,
                isAncestor_of_resolve unique unknown (by rw [next]; rfl)⟩

/-- The id of a terminal that a pane is found for after all lookups was found
itself, or is below a terminal that was. -/
theorem exists_atOrAbove_of_found (unique : panes.entries.keys.Nodup)
    (member : terminal ∈ terminals)
    (found : ((resolvePanes panes terminals).2.lookup
      terminal.virtualPaneId).isSome = true) :
    ∃ above, above ∈ (resolvePanes panes terminals).1.keys ∧
      AtOrAbove above terminal.virtualPaneId := by
  obtain ⟨earlier, later, rfl⟩ := List.append_of_mem member
  rw [resolvePanes_append] at found ⊢
  have uniqueThen := keys_nodup_resolvePanes unique earlier
  generalize (resolvePanes panes earlier).2 = panes at found uniqueThen ⊢
  simp only [Entries.keys, List.map_append, List.mem_append]
  cases isFound : panes.lookup terminal.virtualPaneId with
  | none =>
      rw [resolvePanes_of_unknown isFound] at found ⊢
      obtain ⟨above, found, isAbove⟩ :=
        exists_above_of_found uniqueThen isFound found
      exact ⟨above, .inr found, .inr isAbove⟩
  | some realId =>
      rw [resolvePanes_of_found isFound]
      exact ⟨_, .inr List.mem_cons_self, .refl _⟩

/-- Exactly those names can be used that belong to a terminal that a pane was
found for. -/
theorem get?_namedTerminals {name : String} :
    (∃ pane, (namedTerminals terminals panes).get? name = some pane) ↔
      ∃ terminal ∈ terminals, terminal.name = name ∧
        terminal.virtualPaneId ∈ (resolvePanes panes terminals).1.keys := by
  rw [← Entries.mem_keys_iff, namedTerminals, Template.namedPanes,
    Entries.mem_keys_ofList]
  simp only [Entries.keys, List.mem_map, List.mem_filterMap,
    Option.map_eq_some_iff]
  constructor
  · rintro ⟨_, ⟨terminal, member, pane, found, rfl⟩, rfl⟩
    refine ⟨terminal, member, rfl, List.mem_map.mp ?_⟩
    exact Entries.mem_keys_ofList.mp (Entries.mem_keys_iff.mpr ⟨pane, found⟩)
  · rintro ⟨terminal, member, rfl, found⟩
    obtain ⟨pane, found⟩ := Entries.mem_keys_iff.mp
      (Entries.mem_keys_ofList.mpr (List.mem_map.mpr found))
    exact ⟨_, ⟨terminal, member, pane, found, rfl⟩, rfl⟩

end Lookups

/-! ### Maps without repeated ids -/

section Unique

variable {panes : PaneMap}

/-- If there is a value, it has a property. -/
def yields {α : Type} (property : α → Prop) : Except ReplayError α → Prop
  | .ok value => property value
  | .error _ => True

def HasUniqueIds (panes : PaneMap) : Prop := panes.entries.keys.Nodup

theorem yields_targetPane (unique : HasUniqueIds panes) (role : TargetRole)
    (stepId : String) (target : Option String) :
    (targetPane role stepId target panes).Ends
      (yields fun found => HasUniqueIds found.2) := by
  unfold targetPane
  split
  · exact .done trivial
  · exact .done trivial
  · next id _ =>
    cases found : panes.lookup id with
    | none =>
        rw [PaneMap.resolve_of_unknown found]
        exact .done trivial
    | some realId =>
        rw [PaneMap.resolve_of_found found]
        exact .done (keys_nodup_register unique id realId)

theorem yields_splitPane (unique : HasUniqueIds panes)
    (request : ReplayRequest) (step : SplitStep) :
    (splitPane request step panes).Ends (yields HasUniqueIds) := by
  unfold splitPane
  refine (yields_targetPane unique _ _ _).bind ?_ fun _ _ => trivial
  rintro ⟨target, panes⟩ unique
  refine (Session.ends_trivial _).bind (fun _ _ => ?_) fun _ _ => trivial
  refine (Session.ends_trivial _).bind (fun _ _ => ?_) fun _ _ => trivial
  refine (Session.ends_trivial _).bind (fun _ _ => ?_) fun _ _ => trivial
  refine (Session.ends_trivial _).bind (fun _ _ => ?_) fun _ _ => trivial
  split
  · exact .done trivial
  · split
    · exact .done unique
    · exact .done unique
    · exact .note (.done (keys_nodup_register unique _ _))

theorem yields_executeStep (unique : HasUniqueIds panes)
    (request : ReplayRequest) (step : Step) :
    (executeStep request panes step).Ends (yields HasUniqueIds) := by
  cases step with
  | split step => exact yields_splitPane unique request step
  | focus step =>
      refine (yields_targetPane unique _ _ _).bind ?_ fun _ _ => trivial
      rintro ⟨target, panes⟩ unique
      exact (Session.ends_trivial _).bind (fun _ _ => .done unique)
        fun _ _ => trivial
  | unsupported kind id => exact .done trivial

end Unique

/-! ### The turn of a terminal -/

namespace Performance

variable {State : Type} {performance : Performance State}
  {built point : Point State} {focusPane : String}
  {terminals : List EmittedTerminal}

theorem Stepping.hasUniqueIds {steps : List Step}
    (stepping : performance.Stepping steps point) :
    HasUniqueIds point.panes := by
  induction stepping with
  | acquired _ =>
      have nothing : HasUniqueIds PaneMap.empty := List.nodup_nil
      exact keys_nodup_register nothing _ _
  | @step step steps point events panes state _ executed induction =>
      have yields := yields_executeStep induction performance.request step
      exact (yields.heeds []).fits_of_returned executed

variable (performance) in
/-- A pane was found for the id in advance, when the names were gathered. -/
def FindsInAdvance (built : Point State) (id : String) : Prop :=
  id ∈ (resolvePanes built.panes performance.emission.terminals).1.keys

/-- What is known between the terminals is what all lookups in advance made
known. -/
structure Settled (performance : Performance State) (built point : Point State)
    (terminals : List EmittedTerminal) : Prop where
  left : ∀ terminal ∈ terminals, terminal ∈ performance.emission.terminals
  unique : HasUniqueIds point.panes
  kept : ∀ id,
    (resolvePanes built.panes performance.emission.terminals).2.has id = true →
      point.panes.has id = true
  below : ∀ id, point.panes.has id = true → ∃ above,
    (resolvePanes built.panes performance.emission.terminals).2.has above =
      true ∧ AtOrAbove above id

theorem Settled.lookup_isSome
    (settled : Settled performance built point terminals)
    (unique : HasUniqueIds built.panes) {id : String}
    (found : (point.panes.lookup id).isSome = true) :
    ((resolvePanes built.panes performance.emission.terminals).2.lookup
      id).isSome = true := by
  obtain ⟨known, recorded, related⟩ :=
    (lookup_isSome_iff settled.unique).mp found
  obtain ⟨above, wasRecorded, isAbove⟩ := settled.below known recorded
  exact (lookup_isSome_iff (keys_nodup_resolvePanes unique _)).mpr
    ⟨above, wasRecorded, related.of_atOrAbove isAbove⟩

theorem Configuring.settled
    (configuring : performance.Configuring built focusPane terminals point) :
    Settled performance built point terminals := by
  have unique := configuring.stepping.hasUniqueIds
  induction configuring with
  | focused _ _ =>
      exact ⟨fun _ member => member, keys_nodup_resolvePanes unique _,
        fun _ recorded => recorded, fun id recorded => ⟨id, recorded, .refl id⟩⟩
  | @terminal terminal terminals point realId events state _ found _
      settled =>
      have isFound :
          (point.panes.lookup terminal.virtualPaneId).isSome = true := by
        rw [found, Option.isSome_some]
      refine ⟨fun other member =>
          settled.left other (List.mem_cons_of_mem _ member),
        keys_nodup_resolve settled.unique _,
        fun id recorded =>
          (has_resolve isFound).mpr (.inr (settled.kept id recorded)),
        fun id recorded => ?_⟩
      -- Only the id of the terminal is new, and it was found through another.
      rcases (has_resolve isFound).mp recorded with rfl | recorded
      · obtain ⟨above, inAdvance, isAbove⟩ := exists_atOrAbove_of_found unique
          (settled.left terminal List.mem_cons_self)
          (settled.lookup_isSome unique isFound)
        exact ⟨above, has_resolvePanes.mpr (.inr inAdvance), isAbove⟩
      · exact settled.below id recorded

/-- A terminal without a pane ends the replay at its turn. -/
theorem Configuring.run_of_unknown {terminal : EmittedTerminal}
    (configuring : performance.Configuring built focusPane
      (terminal :: terminals) point)
    (unknown : point.panes.lookup terminal.virtualPaneId = none) :
    performance.run =
      ⟨point.events, .failed (.unknownTerminal terminal.virtualPaneId),
        point.state⟩ := by
  have reached := configuring.reaches
  rw [configureAll_of_unknown unknown, Session.error_bind] at reached
  rw [show performance.run = _ from reached]
  simp only [runPart, Session.run_error, List.append_nil]

/-- A terminal has a pane at its turn if and only if a pane was found in advance
for the terminal itself or for one above it.  In the first case its name can be
used; in the second case it may be configured although its name cannot.  A
terminal without a pane ends the replay. -/
theorem Configuring.has_pane_iff {terminal : EmittedTerminal}
    (configuring : performance.Configuring built focusPane
      (terminal :: terminals) point) :
    ((∃ pane, point.panes.lookup terminal.virtualPaneId = some pane) ↔
      performance.FindsInAdvance built terminal.virtualPaneId ∨
        ∃ above, performance.FindsInAdvance built above ∧
          isAncestor above terminal.virtualPaneId = true) ∧
    (performance.FindsInAdvance built terminal.virtualPaneId →
      ∃ pane, (performance.named built).get? terminal.name = some pane) ∧
    (point.panes.lookup terminal.virtualPaneId = none →
      performance.run =
        ⟨point.events, .failed (.unknownTerminal terminal.virtualPaneId),
          point.state⟩) := by
  have settled := configuring.settled
  have unique := configuring.stepping.hasUniqueIds
  have member := settled.left terminal List.mem_cons_self
  have recorded : ∀ {id}, performance.FindsInAdvance built id →
      point.panes.has id = true :=
    fun inAdvance => settled.kept _ (has_resolvePanes.mpr (.inr inAdvance))
  refine ⟨?_, fun inAdvance => ?_, configuring.run_of_unknown⟩
  · rw [← Option.isSome_iff_exists]
    constructor
    · intro found
      obtain ⟨above, inAdvance, rfl | isAbove⟩ :=
        exists_atOrAbove_of_found unique member
          (settled.lookup_isSome unique found)
      · exact .inl inAdvance
      · exact .inr ⟨above, inAdvance, isAbove⟩
    · rw [lookup_isSome_iff settled.unique]
      rintro (inAdvance | ⟨above, inAdvance, isAbove⟩)
      · exact ⟨_, recorded inAdvance, .inl (.refl _)⟩
      · exact ⟨above, recorded inAdvance, .inl (.inr isAbove)⟩
  · exact get?_namedTerminals.mpr ⟨terminal, member, rfl, inAdvance⟩

end Performance

/-- An emission whose first terminal gets its pane through the second. -/
def Performance.namelessTerminal : Performance ScriptedWindow where
  emission := {
    steps := []
    terminals := [
      { virtualPaneId := "root.0", name := "a", title := some "A" },
      { virtualPaneId := "root", name := "b" }]
    summary := {
      stepsCount := 0, focusPaneId := "root.1", initialPaneId := "root.1" }
    hash := "" }
  request := {}
  server := ScriptedWindow.server {}
  consent := fun _ => none
  start := {}

namespace Performance

theorem acquires_namelessTerminal :
    ∃ events state, namelessTerminal.Acquires events "%1" state :=
  ⟨_, _, by decide, .newWindow, rfl, rfl⟩

/-- The pane of a terminal may be found only when its turn comes. -/
theorem has_pane_namelessTerminal :
    ∃ built point terminal rest,
      namelessTerminal.Configuring built "%1" (terminal :: rest) point ∧
      (∃ pane, point.panes.lookup terminal.virtualPaneId = some pane) := by
  obtain ⟨events, state, acquires⟩ := acquires_namelessTerminal
  have configuring := Configuring.focused (.acquired acquires) rfl
  exact ⟨_, _, _, _, configuring, configuring.has_pane_iff.1.mpr
    (.inr ⟨"root", List.mem_cons_self, by decide⟩)⟩

/-- A terminal may be configured although its name cannot be used. -/
theorem configures_nameless :
    ∃ built point terminal rest,
      namelessTerminal.Configuring built "%1" (terminal :: rest) point ∧
      point.panes.lookup terminal.virtualPaneId = some "%1" ∧
      (namelessTerminal.named built).get? terminal.name = none ∧
      ["select-pane", "-t", "%1", "-T", "A"] ∈ namelessTerminal.run.commands ∧
      namelessTerminal.run.ending = .returned ⟨0, "root.1"⟩ := by
  obtain ⟨events, state, acquires⟩ := acquires_namelessTerminal
  exact ⟨_, _, _, _, .focused (.acquired acquires) rfl, rfl, rfl, by decide,
    rfl⟩

end Performance

end Replay

end PaneLayout
