import PaneLayout.Proofs.Template
import PaneLayout.Proofs.Entries.Order

/-!
# Naming a terminal in a token

A token is looked up by its name without the blanks around it, and the panes are
kept under the names as they are.  So a token with the name of a terminal stands
for the last terminal with the trimmed name, if there is one.
-/

namespace PaneLayout.Template

/-- The token that is written with a name. -/
def nameToken (name : String) : String :=
  "\x7b\x7bpane_id:" ++ name ++ "\x7d\x7d"

/-- The last of the terminals with a name. -/
def IsLastNamed (terminals : List EmittedTerminal) (name : String)
    (last : EmittedTerminal) : Prop :=
  ∃ earlier later, terminals = earlier ++ last :: later ∧ last.name = name ∧
    ∀ other ∈ later, other.name ≠ name

theorem IsLastNamed.mem {terminals : List EmittedTerminal} {name : String}
    {last : EmittedTerminal} (isLast : IsLastNamed terminals name last) :
    last ∈ terminals := by
  obtain ⟨earlier, later, rfl, -⟩ := isLast
  simp

theorem exists_isLastNamed {terminals : List EmittedTerminal} {name : String}
    (named : ∃ terminal ∈ terminals, terminal.name = name) :
    ∃ last, IsLastNamed terminals name last := by
  induction terminals with
  | nil =>
      obtain ⟨terminal, member, -⟩ := named
      cases member
  | cons first rest induction =>
      by_cases again : ∃ terminal ∈ rest, terminal.name = name
      · obtain ⟨last, earlier, later, rfl, isLast⟩ := induction again
        exact ⟨last, first :: earlier, later, rfl, isLast⟩
      · obtain ⟨terminal, member, hasName⟩ := named
        rcases List.mem_cons.mp member with rfl | isLater
        · exact ⟨terminal, [], rest, rfl, hasName, fun other isRest same =>
            again ⟨other, isRest, same⟩⟩
        · exact absurd ⟨terminal, isLater, hasName⟩ again

/-- A token with a name is the only piece of its text. -/
theorem pieces_nameToken {name : String} (nonempty : name ≠ "")
    (unbraced : '\x7d' ∉ name.toList) :
    pieces (nameToken name).toList = [.token (.paneOf name.toList)] := by
  have isWritten : (Token.paneOf name.toList).IsWritten :=
    ⟨fun isEmpty => nonempty (String.toList_injective isEmpty), unbraced⟩
  have isText : (nameToken name).toList =
      (Token.paneOf name.toList).text ++ [] := by
    simp [nameToken, Token.text, openToken, closeToken]
  rw [pieces_of_token (token?_eq_some_iff.mpr ⟨isWritten, isText⟩), pieces]

section Held

variable {terminals : List EmittedTerminal} {panes : Entries String}

/-- If every terminal has a pane, each name stands for a terminal's pane. -/
theorem namedPanes_of_held
    (held : ∀ terminal ∈ terminals,
      terminal.virtualPaneId ∈ panes.keys) :
    namedPanes terminals panes = Entries.ofList (terminals.map fun terminal =>
      (terminal.name, (panes.get? terminal.virtualPaneId).getD "")) := by
  rw [namedPanes, ← List.filterMap_eq_map']
  refine congrArg _ (List.filterMap_congr fun terminal member => ?_)
  obtain ⟨pane, found⟩ := Entries.mem_keys_iff.mp (held terminal member)
  rw [found]
  rfl

theorem keys_namedPanes
    (held : ∀ terminal ∈ terminals,
      terminal.virtualPaneId ∈ panes.keys) :
    (namedPanes terminals panes).keys =
      (terminals.map EmittedTerminal.name).eraseDups := by
  rw [namedPanes_of_held held, Entries.keys_ofList, Entries.keys, List.map_map]
  rfl

theorem exists_pane_of_isLastNamed
    (held : ∀ terminal ∈ terminals,
      terminal.virtualPaneId ∈ panes.keys)
    {name : String} {last : EmittedTerminal}
    (isLast : IsLastNamed terminals name last) :
    ∃ pane, panes.get? last.virtualPaneId = some pane ∧
      (namedPanes terminals panes).get? name = some pane := by
  obtain ⟨pane, found⟩ := Entries.mem_keys_iff.mp (held last isLast.mem)
  refine ⟨pane, found, ?_⟩
  obtain ⟨earlier, later, rfl, rfl, noneLater⟩ := isLast
  rw [namedPanes_of_held held, List.map_append, List.map_cons, found]
  exact Entries.get?_ofList_last (List.forall_mem_map.mpr noneLater)

end Held

/-- A token with the name of a terminal stands for the last terminal with the
trimmed name.  If no terminal has that name, the token is an error. -/
theorem replace_nameToken {terminals : List EmittedTerminal}
    {panes : Entries String} (thisPane focusPane : String)
    {terminal : EmittedTerminal} (member : terminal ∈ terminals)
    (held : ∀ other ∈ terminals, other.virtualPaneId ∈ panes.keys)
    (nonempty : terminal.name ≠ "")
    (unbraced : '\x7d' ∉ terminal.name.toList) :
    (∀ last, IsLastNamed terminals (trimmed terminal.name) last →
      ∃ pane, panes.get? last.virtualPaneId = some pane ∧
        replace ⟨thisPane, focusPane, namedPanes terminals panes⟩
          (nameToken terminal.name) = .ok pane) ∧
    ((∀ other ∈ terminals, other.name ≠ trimmed terminal.name) →
      replace ⟨thisPane, focusPane, namedPanes terminals panes⟩
        (nameToken terminal.name) =
          .error ⟨trimmed terminal.name,
            (terminals.map EmittedTerminal.name).eraseDups⟩) ∧
    (trimmed terminal.name = terminal.name →
      ∃ last pane, IsLastNamed terminals terminal.name last ∧
        panes.get? last.virtualPaneId = some pane ∧
        replace ⟨thisPane, focusPane, namedPanes terminals panes⟩
          (nameToken terminal.name) = .ok pane) := by
  have replaced : replace ⟨thisPane, focusPane, namedPanes terminals panes⟩
      (nameToken terminal.name) =
        paneOf ⟨thisPane, focusPane, namedPanes terminals panes⟩
          (.paneOf terminal.name.toList) := by
    rw [replace_eq_replaceAll, pieces_nameToken nonempty unbraced,
      replaceAll_token]
  have stands {last : EmittedTerminal}
      (isLast : IsLastNamed terminals (trimmed terminal.name) last) :
      ∃ pane, panes.get? last.virtualPaneId = some pane ∧
        replace ⟨thisPane, focusPane, namedPanes terminals panes⟩
          (nameToken terminal.name) = .ok pane := by
    obtain ⟨pane, found, named⟩ := exists_pane_of_isLastNamed held isLast
    exact ⟨pane, found, replaced.trans (paneOf_of_standsFor (.paneOf named))⟩
  refine ⟨fun last => stands, fun unknown => ?_, fun isTrimmed => ?_⟩
  · have noKey : trimmed terminal.name ∉ (namedPanes terminals panes).keys := by
      rw [keys_namedPanes held, List.mem_eraseDups, List.mem_map]
      rintro ⟨other, isMember, hasName⟩
      exact unknown other isMember hasName
    rw [replaced, paneOf_of_unknown noKey, keys_namedPanes held]
    rfl
  · obtain ⟨last, isLast⟩ := exists_isLastNamed ⟨terminal, member, rfl⟩
    obtain ⟨pane, found, isReplaced⟩ := stands (isTrimmed.symm ▸ isLast)
    exact ⟨last, pane, isLast, found, isReplaced⟩

def plain : EmittedTerminal :=
  { virtualPaneId := "root.0", name := "a" }

def indented : EmittedTerminal :=
  { virtualPaneId := "root.1", name := " a" }

/-- Of two terminals whose names differ in a blank, the tokens with either name
stand for the same one.  Alone, the indented one has no token. -/
theorem replace_nameToken_indented :
    replace ⟨"%1", "%1", namedPanes [plain, indented]
        [("root.0", "%1"), ("root.1", "%2")]⟩ (nameToken "a") = .ok "%1" ∧
      replace ⟨"%1", "%1", namedPanes [plain, indented]
        [("root.0", "%1"), ("root.1", "%2")]⟩ (nameToken " a") = .ok "%1" ∧
      replace ⟨"%2", "%2", namedPanes [indented] [("root.1", "%2")]⟩
        (nameToken " a") = .error ⟨"a", [" a"]⟩ := by
  have isLast : IsLastNamed [plain, indented] "a" plain :=
    ⟨[], [indented], rfl, rfl, by decide⟩
  have isTrimmed : trimmed " a" = "a" := by decide
  refine ⟨?_, ?_, ?_⟩
  · obtain ⟨stands, -, -⟩ := @replace_nameToken [plain, indented]
      [("root.0", "%1"), ("root.1", "%2")] "%1" "%1" plain List.mem_cons_self
      (by decide) (by decide) (by decide)
    obtain ⟨pane, found, replaced⟩ := stands plain isLast
    cases found
    exact replaced
  · obtain ⟨stands, -, -⟩ := @replace_nameToken [plain, indented]
      [("root.0", "%1"), ("root.1", "%2")] "%1" "%1" indented (by decide)
      (by decide) (by decide) (by decide)
    obtain ⟨pane, found, replaced⟩ := stands plain (isTrimmed.symm ▸ isLast)
    cases found
    exact replaced
  · obtain ⟨-, unknown, -⟩ := @replace_nameToken [indented]
      [("root.1", "%2")] "%2" "%2" indented List.mem_cons_self
      (by decide) (by decide) (by decide)
    exact unknown (by decide)

/-- Not every named terminal can be referred to by its name. -/
theorem not_forall_replace_nameToken :
    ¬ ∀ (terminals : List EmittedTerminal) (panes : Entries String)
      (thisPane focusPane : String) (terminal : EmittedTerminal),
      terminal ∈ terminals →
      (∀ other ∈ terminals, other.virtualPaneId ∈ panes.keys) →
      (∃ c ∈ terminal.name.toList, isBlank c = false) →
      '\x7d' ∉ terminal.name.toList →
      ∃ last pane, IsLastNamed terminals terminal.name last ∧
        panes.get? last.virtualPaneId = some pane ∧
        replace ⟨thisPane, focusPane, namedPanes terminals panes⟩
          (nameToken terminal.name) = .ok pane := by
  intro refers
  have unknown : replace ⟨"%2", "%2", namedPanes [indented]
      [("root.1", "%2")]⟩ (nameToken indented.name) =
        .error ⟨"a", [" a"]⟩ := by
    decide +kernel
  obtain ⟨last, pane, -, -, replaced⟩ := refers [indented] [("root.1", "%2")]
    "%2" "%2" indented List.mem_cons_self (by decide)
    ⟨'a', by decide, by decide⟩ (by decide)
  rw [unknown] at replaced
  cases replaced

end PaneLayout.Template
