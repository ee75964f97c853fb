import PaneLayout.Proofs.Fault
import PaneLayout.Proofs.Number.Numeral
import PaneLayout.Proofs.Replay.Occupy
import PaneLayout.Proofs.Replay.Size
import PaneLayout.Proofs.Server.Scripted
import PaneLayout.Server.Rehearsal

/-!
# The panes of a rehearsal

A rehearsal keeps texts and is read through its listing, where each line without
its blanks is a pane.  Every split adds one line to the listing, with the next
number.  The other commands that a replay sends change nothing, except for the
one that closes panes.
-/

namespace PaneLayout

/-! ### Listings with another line -/

theorem splitWhere_ne_nil {α : Type} (test : α → Bool) (items : List α) :
    splitWhere test items ≠ [] := by
  cases items with
  | nil => simp [splitWhere]
  | cons item rest =>
      rw [splitWhere]
      split
      · exact List.cons_ne_nil _ _
      · split <;> exact List.cons_ne_nil _ _

theorem splitWhere_append_separator {α : Type} (test : α → Bool)
    {separator : α} (separates : test separator = true)
    (items rest : List α) :
    splitWhere test (items ++ separator :: rest) =
      splitWhere test items ++ splitWhere test rest := by
  induction items with
  | nil => simp [splitWhere, separates]
  | cons item items induction =>
      rw [List.cons_append, splitWhere, splitWhere, induction]
      cases pieces : splitWhere test items with
      | nil => exact absurd pieces (splitWhere_ne_nil test items)
      | cons piece pieces =>
          by_cases isSeparator : test item = true
          · simp [isSeparator]
          · simp [isSeparator]

theorem linesOf_append_line (text last : String) :
    linesOf (text ++ ("\n" ++ last)) = linesOf text ++ linesOf last := by
  have separated : (text ++ ("\n" ++ last)).toList =
      text.toList ++ '\n' :: last.toList := by
    simp
  rw [linesOf, separated, splitWhere_append_separator (· == '\n') rfl,
    List.map_append, linesOf, linesOf]

theorem intercalate_concat {panes : List String} (nonempty : panes ≠ [])
    (last : String) :
    "\n".intercalate (panes ++ [last]) =
      "\n".intercalate panes ++ ("\n" ++ last) := by
  rw [String.intercalate_append_of_ne_nil nonempty (List.cons_ne_nil _ _),
    String.intercalate_singleton, String.append_assoc]

/-! ### Own panes -/

theorem isBlankText_of_trimmed {text : String} (blank : trimmed text = "") :
    isBlankText text = true := by
  have nothing : trimBlanks text.toList = [] :=
    String.ofList_injective blank
  rw [trimBlanks, dropEndWhile, List.reverse_eq_nil_iff,
    List.dropWhile_eq_nil_iff] at nothing
  rw [isBlankText, List.all_eq_true]
  intro c member
  have parts :=
    List.takeWhile_append_dropWhile (p := isBlank) (l := text.toList)
  rw [← parts] at member
  rcases List.mem_append.mp member with first | rest
  · exact List.mem_takeWhile_imp first
  · exact nothing c (List.mem_reverse.mpr rest)

theorem normalizePaneId_ne_empty (raw : String) : normalizePaneId raw ≠ "" := by
  unfold normalizePaneId
  split
  · decide
  · next notBlank => exact fun blank => notBlank (isBlankText_of_trimmed blank)

namespace Rehearsal

/-- The panes that a listing shows. -/
def listed (rehearsal : Rehearsal) : List String :=
  listedPanes ("\n".intercalate rehearsal.panes)

/-- The rehearsal after a split that made a pane. -/
def divided (rehearsal : Rehearsal) : Rehearsal :=
  ⟨rehearsal.panes ++ [paneName rehearsal.nextNumber],
    rehearsal.nextNumber + 1⟩

/-- The next pane can be named: its number is short enough to be written. -/
def CanName (rehearsal : Rehearsal) : Prop :=
  rehearsal.nextNumber < Nat.pow 10 digitLimit

/-- The rehearsal after all panes but one are closed. -/
def closed (rehearsal : Rehearsal) (kept : String) : Rehearsal :=
  { rehearsal with panes := rehearsal.panes.filter (· = kept) }

/-- The panes that are listed beside one. -/
def others (rehearsal : Rehearsal) (own : String) : List String :=
  rehearsal.listed.filter (· ≠ own)

/-- The rehearsal after all panes but one are closed, if there are others. -/
def settled (rehearsal : Rehearsal) (own : String) : Rehearsal :=
  if rehearsal.others own = [] then rehearsal else rehearsal.closed own

/-- The panes beside one can be closed: there are none, or the notice about them
can be shown. -/
def CanClose (rehearsal : Rehearsal) (notice : List String → Except Fault String)
    (own : String) : Prop :=
  rehearsal.others own = [] ∨
    ∃ shown, notice (rehearsal.others own) = .ok shown

variable (rehearsal : Rehearsal)

theorem nextPane_of_canName {rehearsal : Rehearsal}
    (named : rehearsal.CanName) :
    rehearsal.nextPane = .ok (paneName rehearsal.nextNumber) := by
  rw [nextPane, wholeText, if_pos (by rwa [Int.natAbs_natCast])]
  rfl

theorem nextPane_of_not_canName {rehearsal : Rehearsal}
    (unnamed : ¬ rehearsal.CanName) :
    rehearsal.nextPane = .error .numeralTooLong := by
  rw [nextPane, wholeText, if_neg (by rwa [Int.natAbs_natCast])]
  rfl

theorem listed_divided :
    rehearsal.divided.listed =
      rehearsal.listed ++ [paneName rehearsal.nextNumber] := by
  have next : listedPanes (paneName rehearsal.nextNumber) =
      [paneName rehearsal.nextNumber] := by
    have alone := listedPanes_intercalate
      (List.forall_mem_singleton.mpr (paneName_solid rehearsal.nextNumber))
      (List.forall_mem_singleton.mpr (paneName_ne_empty _))
    rwa [String.intercalate_singleton] at alone
  have nothing : listedPanes ("\n".intercalate []) = [] := by decide
  rw [listed, listed, divided]
  by_cases empty : rehearsal.panes = []
  · rw [empty, List.nil_append, String.intercalate_singleton, next, nothing,
      List.nil_append]
  · rw [intercalate_concat empty]
    unfold listedPanes at next ⊢
    rw [linesOf_append_line, List.map_append, List.filter_append, next]

/-- After a split the new pane is found, unless its name was listed before. -/
theorem find?_divided :
    (rehearsal.divided.listed.find? fun pane =>
      !rehearsal.listed.contains pane) =
        if paneName rehearsal.nextNumber ∈ rehearsal.listed then none
        else some (paneName rehearsal.nextNumber) := by
  have known : (rehearsal.listed.find? fun pane =>
      !rehearsal.listed.contains pane) = none := by
    simp [List.find?_eq_none]
  rw [listed_divided, List.find?_append, known, Option.none_or]
  by_cases isListed : paneName rehearsal.nextNumber ∈ rehearsal.listed
  · simp [isListed]
  · simp [isListed]

/-- So many panes can be named and handed out next, and none of them is listed
already. -/
def FreshFor (count : Nat) : Prop :=
  ∀ index < count, rehearsal.nextNumber + index < Nat.pow 10 digitLimit ∧
    paneName (rehearsal.nextNumber + index) ∉ rehearsal.listed

theorem freshFor_succ (count : Nat) :
    rehearsal.FreshFor (count + 1) ↔
      (rehearsal.CanName ∧
        paneName rehearsal.nextNumber ∉ rehearsal.listed) ∧
        rehearsal.divided.FreshFor count := by
  have next : rehearsal.divided.nextNumber = rehearsal.nextNumber + 1 := rfl
  have later (index : Nat) : rehearsal.nextNumber + 1 + index =
      rehearsal.nextNumber + (index + 1) := by omega
  unfold FreshFor
  rw [listed_divided, next]
  constructor
  · intro fresh
    refine ⟨fresh 0 (Nat.succ_pos count), fun index below => ?_⟩
    obtain ⟨named, isFresh⟩ := fresh (index + 1) (Nat.succ_lt_succ below)
    rw [later]
    refine ⟨named, fun isListed => ?_⟩
    rcases List.mem_append.mp isListed with old | made
    · exact isFresh old
    · have same := paneName_injective (List.mem_singleton.mp made)
      omega
  · rintro ⟨isFresh, fresh⟩ index below
    cases index with
    | zero => exact isFresh
    | succ index =>
        obtain ⟨named, isLater⟩ := fresh index (Nat.lt_of_succ_lt_succ below)
        rw [← later]
        exact ⟨named, fun old => isLater (List.mem_append_left _ old)⟩

theorem step_listing :
    server.step .listing rehearsal =
      (.ok ("\n".intercalate rehearsal.panes), rehearsal) := rfl

/-- A split makes the next pane, if that can be named. -/
theorem step_dividing_eq (orientation : Orientation)
    (target option size : String) :
    rehearsal.step (.dividing orientation target option size) =
      match rehearsal.nextPane with
      | .ok pane =>
          (.ok "", ⟨rehearsal.panes ++ [pane], rehearsal.nextNumber + 1⟩)
      | .error fault => (.error fault, rehearsal) := by
  unfold step Command.dividing
  dsimp only [List.cons_append]
  refine (if_neg (by decide)).trans ((if_pos rfl).trans ?_)
  cases rehearsal.nextPane <;> rfl

theorem step_dividing {rehearsal : Rehearsal} (named : rehearsal.CanName)
    (orientation : Orientation) (target option size : String) :
    server.step (.dividing orientation target option size) rehearsal =
      (.ok "", rehearsal.divided) := by
  simp only [server, step_dividing_eq, nextPane_of_canName named]
  rfl

theorem step_dividing_unnamed {rehearsal : Rehearsal}
    (unnamed : ¬ rehearsal.CanName) (orientation : Orientation)
    (target option size : String) :
    server.step (.dividing orientation target option size) rehearsal =
      (.error (.other (reason .numeralTooLong)), rehearsal) := by
  simp only [server, step_dividing_eq, nextPane_of_not_canName unnamed]

theorem step_sizeQuery (orientation : Orientation) (target : String) :
    server.step (Replay.sizeQuery orientation target) rehearsal =
      (.ok "", rehearsal) := by
  cases orientation <;> rfl

theorem step_closing (kept : String) :
    server.step (closingCommand kept) rehearsal =
      (.ok "", rehearsal.closed kept) := rfl

/-! ### Seeds -/

/-- The pane that a rehearsal starts with. -/
def seed (pane : Option String) : String :=
  if pane.getD "" = "" then placeholderPane else pane.getD ""

theorem inPane_eq (pane : Option String) :
    inPane pane = start [seed pane] := by
  unfold inPane
  split
  · rfl
  · rfl
  · next pane nonempty =>
    rw [seed, Option.getD_some, if_neg (fun empty => nonempty (by rw [empty]))]

/-- A pane id as it is listed: it stands on one line without blanks around it,
and if it ends in a number, that can be read. -/
structure IsPlainId (text : String) : Prop where
  trimmed_eq : trimmed text = text
  oneLine : '\n' ∉ text.toList
  readable : ∃ number, paneNumber text = .ok number

theorem of_readDigits_toString {n value : Nat}
    (read : readDigits (toString n).toList = .ok value) : value = n := by
  unfold readDigits at read
  rw [mapM_digitValue? fun _ => toString_digits] at read
  split at read
  · cases read
  · cases read
  · next digits _ same =>
    cases same
    split at read
    · cases read
      rw [valueOfDigits_ascii, ofDigitChars_toString]
    · cases read

/-- The number of a pane that was handed out is read back. -/
theorem paneNumber_paneName {n : Nat} {number : Option Nat}
    (read : paneNumber (paneName n) = .ok number) : number = some n := by
  have areDigits : ∀ c ∈ (toString n).toList, c.isDigit = true :=
    fun _ => toString_digits
  have digits : (paneName n).toList.dropWhile (· = '%') =
      (toString n).toList := by
    obtain ⟨first, rest, isText⟩ :=
      List.exists_cons_of_ne_nil (toString_ne_nil n)
    have notPercent : first ≠ '%' := by
      rintro rfl
      have isDigit := areDigits '%' (by rw [isText]; exact List.mem_cons_self)
      revert isDigit
      decide
    rw [paneName, String.toList_append, isText,
      show "%".toList = ['%'] from rfl, List.singleton_append,
      List.dropWhile_cons_of_pos (by decide),
      List.dropWhile_cons_of_neg (by simpa using notPercent)]
  have test : (!(toString n).toList.isEmpty &&
      (toString n).toList.all looksLikeDigit) = true := by
    rw [Bool.and_eq_true, List.all_eq_true]
    refine ⟨by simp, fun c member => ?_⟩
    rw [looksLikeDigit, isDecimalDigit_of_isDigit (areDigits c member)]
    rfl
  unfold paneNumber at read
  rw [digits] at read
  dsimp only at read
  rw [if_pos test] at read
  obtain ⟨value, isValue, made⟩ := exists_of_bind_eq_ok read
  cases made
  rw [of_readDigits_toString isValue]

theorem seed_ne_empty (pane : Option String) : seed pane ≠ "" := by
  unfold seed
  split
  · decide
  · next nonempty => exact nonempty

theorem start_of_readable {pane : String} {number : Option Nat}
    (read : paneNumber pane = .ok number) :
    start [pane] = .ok ⟨[pane], (number.map (· + 1)).getD 0⟩ := by
  unfold start
  dsimp only [List.isEmpty_cons]
  rw [if_neg (by decide), List.mapM_cons, read, List.mapM_nil]
  change Except.ok (Rehearsal.mk _ (max 0 _)) = _
  rw [Nat.zero_max]

/-- A plain id is listed as it is. -/
theorem listed_of_plain {rehearsal : Rehearsal} {pane : String}
    (alone : rehearsal.panes = [pane]) (plain : IsPlainId pane)
    (nonempty : pane ≠ "") : rehearsal.listed = [pane] := by
  rw [listed, alone, listedPanes, linesOf_intercalate (List.cons_ne_nil _ _)
    (List.forall_mem_singleton.mpr plain.oneLine), List.map_singleton,
    plain.trimmed_eq]
  simp [nonempty]

theorem own_eq_seed {pane : Option String} (plain : IsPlainId (seed pane)) :
    normalizePaneId (pane.getD "") = seed pane := by
  have same := plain.trimmed_eq
  have nonempty := seed_ne_empty pane
  unfold seed at same nonempty ⊢
  split
  · next empty =>
    rw [empty]
    rfl
  · next stated =>
    rw [if_neg stated] at same nonempty
    rw [Replay.normalizePaneId_eq (by rwa [same]), same]

/-- If its seed is a plain id, a rehearsal lists that pane alone, and hands out
no other one under its name. -/
theorem exists_inPane {pane : Option String} (plain : IsPlainId (seed pane)) :
    ∃ start, inPane pane = .ok start ∧ start.listed = [seed pane] ∧
      ∀ index, paneName (start.nextNumber + index) ≠ seed pane := by
  obtain ⟨number, read⟩ := plain.readable
  refine ⟨_, (inPane_eq pane).trans (start_of_readable read),
    listed_of_plain rfl plain (seed_ne_empty pane), fun index same => ?_⟩
  rw [← same] at read
  have isNumber := paneNumber_paneName read
  cases number with
  | none => cases isNumber
  | some number =>
      -- The next number is above the one that was read.
      have above : number = number + 1 + index := Option.some.inj isNumber
      omega

end Rehearsal

end PaneLayout
