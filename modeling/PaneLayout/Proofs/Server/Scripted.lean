import Mathlib.Data.List.Nodup
import PaneLayout.Proofs.Plan.Position
import PaneLayout.Proofs.Replay.Window
import PaneLayout.Server.Scripted

/-!
# Scripted windows without oddities

A scripted window that never fails, makes one pane with every split, and lists
its panes one per line behaves like a window.  Its panes are numbered, and the
next number is greater than all of theirs.
-/

namespace PaneLayout

/-! ### Lines and blanks -/

section Lines

variable {α : Type} {test : α → Bool} {piece : List α}

theorem splitWhere_whole (whole : ∀ item ∈ piece, test item = false) :
    splitWhere test piece = [piece] := by
  induction piece with
  | nil => rfl
  | cons item rest induction =>
      obtain ⟨here, later⟩ := List.forall_mem_cons.mp whole
      simp [splitWhere, here, induction later]

/-- The first separator ends the first piece. -/
theorem splitWhere_append (whole : ∀ item ∈ piece, test item = false)
    {separator : α} (separates : test separator = true) (rest : List α) :
    splitWhere test (piece ++ separator :: rest) =
      piece :: splitWhere test rest := by
  induction piece with
  | nil => simp [splitWhere, separates]
  | cons item items induction =>
      obtain ⟨here, later⟩ := List.forall_mem_cons.mp whole
      simp [splitWhere, here, induction later]

end Lines

/-- Lines that are put together with line feeds are taken apart again. -/
theorem linesOf_intercalate {lines : List String} (nonempty : lines ≠ [])
    (whole : ∀ line ∈ lines, '\n' ∉ line.toList) :
    linesOf ("\n".intercalate lines) = lines := by
  induction lines with
  | nil => exact absurd rfl nonempty
  | cons line lines induction =>
      obtain ⟨here, later⟩ := List.forall_mem_cons.mp whole
      have noFeed : ∀ c ∈ line.toList, (c == '\n') = false := fun c member =>
        beq_false_of_ne (ne_of_mem_of_not_mem member here)
      cases lines with
      | nil => simp [linesOf, splitWhere_whole noFeed]
      | cons next rest =>
          have others := induction (List.cons_ne_nil _ _) later
          rw [linesOf] at others ⊢
          have feed : "\n".toList = ['\n'] := rfl
          rw [String.intercalate_cons_cons, String.append_assoc,
            String.toList_append, String.toList_append, feed,
            List.singleton_append,
            splitWhere_append noFeed (beq_self_eq_true _), List.map_cons,
            others, String.ofList_toList]

/-- Text without blanks. -/
def IsSolid (text : String) : Prop :=
  ∀ c ∈ text.toList, isBlank c = false

theorem dropWhile_solid {characters : List Char}
    (solid : ∀ c ∈ characters, isBlank c = false) :
    characters.dropWhile isBlank = characters := by
  cases characters with
  | nil => rfl
  | cons first rest => simp [(List.forall_mem_cons.mp solid).1]

/-- Trimming removes the blanks after a text. -/
theorem trimmed_append {text blanks : String} (solid : IsSolid text)
    (blank : ∀ c ∈ blanks.toList, isBlank c = true) :
    trimmed (text ++ blanks) = text := by
  have start : (text.toList ++ blanks.toList).dropWhile isBlank =
      text.toList ++ (if text.toList = [] then [] else blanks.toList) := by
    cases characters : text.toList with
    | nil => simpa using blank
    | cons first rest => simp [solid first (by simp [characters])]
  have finish : ∀ rest : List Char, (∀ c ∈ rest, isBlank c = true) →
      dropEndWhile isBlank (text.toList ++ rest) = text.toList := by
    intro rest allBlank
    rw [dropEndWhile, List.reverse_append,
      List.dropWhile_append_of_pos (by simpa using allBlank),
      dropWhile_solid (by simpa [IsSolid] using solid), List.reverse_reverse]
  rw [trimmed, String.toList_append, trimBlanks, start, finish,
    String.ofList_toList]
  split
  · exact nofun
  · exact blank

theorem trimmed_solid {text : String} (solid : IsSolid text) :
    trimmed text = text := by
  have trim : trimmed (text ++ "") = text := trimmed_append solid nofun
  rwa [String.append_empty] at trim

/-- A listing with one pane per line is read back. -/
theorem listedPanes_intercalate {panes : List String}
    (solid : ∀ pane ∈ panes, IsSolid pane) (named : ∀ pane ∈ panes, pane ≠ "") :
    listedPanes ("\n".intercalate panes) = panes := by
  by_cases empty : panes = []
  · subst empty
    decide
  · have noFeed : ∀ pane ∈ panes, '\n' ∉ pane.toList := by
      intro pane member feed
      have notBlank := solid pane member _ feed
      revert notBlank
      decide
    rw [listedPanes, linesOf_intercalate empty noFeed,
      List.map_congr_left fun pane member => trimmed_solid (solid pane member),
      List.map_id', List.filter_eq_self]
    simpa using named

/-! ### Numbered panes -/

def paneName (number : Nat) : String :=
  "%" ++ toString number

theorem paneName_injective : Function.Injective paneName := by
  intro number other same
  rw [paneName, paneName, String.append_right_inj] at same
  exact Position.toString_injective same

theorem isBlank_digit {c : Char} (isDigit : c.isDigit = true) :
    isBlank c = false := by
  obtain ⟨least, greatest⟩ : 48 ≤ c.toNat ∧ c.toNat ≤ 57 := by
    simpa [Char.isDigit, UInt32.le_iff_toNat_le] using isDigit
  simp only [isBlank, Bool.or_eq_false_iff, Bool.and_eq_false_iff,
    decide_eq_false_iff_not, beq_eq_false_iff_ne]
  omega

theorem paneName_solid (number : Nat) : IsSolid (paneName number) := by
  intro c member
  rw [paneName, String.toList_append] at member
  rcases List.mem_append.mp member with percent | digit
  · rw [List.mem_singleton.mp percent]
    decide
  · rw [Nat.toString_eq_repr, Nat.toList_repr] at digit
    exact isBlank_digit
      (Nat.isDigit_of_mem_toDigits (by decide) (by decide) digit)

theorem paneName_ne_empty (number : Nat) : paneName number ≠ "" := by
  simp [paneName]

/-- The script asks for no oddities apart from where new panes are listed, and
what is answered to queries. -/
structure WindowScript.IsPlain (script : WindowScript) : Prop where
  failOn : script.failOn = none
  failAt : script.failAt = none
  newWindowOutput : script.newWindowOutput = none
  panesPerSplit : script.panesPerSplit = 1
  listSeparator : script.listSeparator = "\n"

namespace ScriptedWindow

/-- The panes of the window have different numbers below the next one. -/
structure IsNumbered (window : ScriptedWindow) : Prop where
  distinct : window.panes.Nodup
  next : ∃ next : Nat, window.nextNumber = next ∧
    ∀ pane ∈ window.panes, ∃ number < next, pane = paneName number

section Plain

variable {script : WindowScript} {window : ScriptedWindow}

theorem not_fails (plain : script.IsPlain) (command : Command) :
    fails script command window = false := by
  simp [fails, plain.failOn, plain.failAt]

def counted (window : ScriptedWindow) : ScriptedWindow :=
  { window with received := window.received + 1 }

theorem IsNumbered.counted (numbered : window.IsNumbered) :
    window.counted.IsNumbered :=
  ⟨numbered.distinct, numbered.next⟩

theorem step_plain (plain : script.IsPlain) (command : Command) :
    (server script).step command window =
      (.ok (obey script command window.counted).1,
        (obey script command window.counted).2) := by
  simp [server, not_fails plain, counted]

theorem freshPanes_one {next : Nat} (isNext : window.nextNumber = next) :
    window.freshPanes 1 = [paneName next] := by
  simp only [freshPanes, isNext, List.range_one, List.map_singleton]
  rfl

theorem next_notMem {next : Nat}
    (earlier : ∀ pane ∈ window.panes, ∃ number < next, pane = paneName number) :
    paneName next ∉ window.panes := by
  intro member
  obtain ⟨number, below, same⟩ := earlier _ member
  exact absurd (paneName_injective same) below.ne'

/-- A split makes one pane, with the next name. -/
theorem panes_split (plain : script.IsPlain) {next : Nat}
    (isNext : window.nextNumber = next) (arguments : List String) :
    (obey script ("split-window" :: arguments) window).2.panes.Perm
      (paneName next :: window.panes) := by
  simp only [obey, plain.panesPerSplit, freshPanes_one isNext]
  split
  · exact .refl _
  · exact List.perm_append_singleton _ _

/-- What a plain window is told keeps its panes numbered. -/
theorem isNumbered_obey (plain : script.IsPlain)
    (numbered : window.IsNumbered) (command : Command) :
    (obey script command window).2.IsNumbered := by
  obtain ⟨distinct, next, isNext, earlier⟩ := numbered
  unfold obey
  split
  · refine ⟨?_, next + 1, by simp [isNext], ?_⟩
    · simp [freshPanes_one isNext]
    · intro pane member
      rw [freshPanes_one isNext, List.mem_singleton] at member
      exact ⟨next, next.lt_succ_self, member⟩
  · rename_i arguments
    have perm := panes_split plain isNext arguments
    refine ⟨perm.nodup_iff.mpr
      (List.nodup_cons.mpr ⟨next_notMem earlier, distinct⟩),
      next + 1, by simp [isNext, plain.panesPerSplit], ?_⟩
    intro pane member
    rcases List.mem_cons.mp (perm.mem_iff.mp member) with rfl | old
    · exact ⟨next, next.lt_succ_self, rfl⟩
    · obtain ⟨number, below, named⟩ := earlier pane old
      exact ⟨number, Nat.lt_succ_of_lt below, named⟩
  · exact ⟨distinct, next, isNext, earlier⟩
  · refine ⟨distinct.filter _, next, isNext, fun pane member => ?_⟩
    exact earlier pane (List.mem_of_mem_filter member)
  · split <;> exact ⟨distinct, next, isNext, earlier⟩
  · exact ⟨distinct, next, isNext, earlier⟩

theorem panes_query {command : Command} (query : command.IsQuery) :
    (obey script command window).2.panes = window.panes := by
  cases command with
  | nil => rfl
  | cons name arguments =>
      rcases query with named | named
      · obtain rfl : name = "display-message" := by simpa using named
        simp only [obey]
        split <;> rfl
      · obtain rfl : name = "list-panes" := by simpa using named
        rfl

/-- A plain window behaves like one. -/
theorem isWindow_plain (plain : script.IsPlain) :
    (server script).IsWindow panes IsNumbered where
  obeys command window _ := ⟨_, by rw [step_plain plain]⟩
  stays command window numbered := by
    rw [step_plain plain]
    exact isNumbered_obey plain numbered.counted command
  distinct window numbered := numbered.distinct
  lists window output numbered answered := by
    obtain ⟨next, _, earlier⟩ := numbered.next
    rw [step_plain plain] at answered
    have printed : "\n".intercalate window.panes = output := by
      simpa [obey, Command.listing, plain.listSeparator, counted] using
        answered
    rw [← printed]
    refine listedPanes_intercalate (fun pane member => ?_) fun pane member => ?_
    · obtain ⟨number, _, rfl⟩ := earlier pane member
      exact paneName_solid number
    · obtain ⟨number, _, rfl⟩ := earlier pane member
      exact paneName_ne_empty number
  looks command window _ query := by
    rw [step_plain plain, panes_query query]
    rfl
  opens name window output numbered answered := by
    obtain ⟨next, isNext, _⟩ := numbered.counted.next
    rw [step_plain plain] at answered ⊢
    have made : output = paneName next ++ "\n" := by
      simpa [obey, plain.newWindowOutput, freshPanes_one isNext] using
        (Except.ok.inj answered).symm
    have trim : trimmed (paneName next ++ "\n") = paneName next := by
      refine trimmed_append (paneName_solid next) fun c member => ?_
      rw [List.mem_singleton.mp member]
      decide
    rw [made, trim]
    exact ⟨paneName_ne_empty next, freshPanes_one isNext⟩
  closes pane window numbered member := by
    rw [step_plain plain]
    change window.panes.filter (some · = some pane) = [pane]
    simp only [Option.some.injEq]
    rw [List.filter_eq, List.count_eq_one_of_mem numbered.distinct member,
      List.replicate_one]
  divides orientation pane option size window numbered _ := by
    obtain ⟨next, isNext, earlier⟩ := numbered.counted.next
    rw [step_plain plain]
    exact ⟨paneName next, next_notMem earlier, panes_split plain isNext
      [orientation.flag, "-t", pane, option, size]⟩

end Plain

end ScriptedWindow

end PaneLayout
