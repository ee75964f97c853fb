import PaneLayout.Proofs.Ratio.Chain
import PaneLayout.Proofs.Ratio.Entry
import PaneLayout.Proofs.Replay.Size
import PaneLayout.Proofs.Session.History

/-!
# The size that a server prints

A dynamic split reads the number of cells of a pane off an output.  An output
that is not made of digits leaves the number unknown, and then the split has no
size.  What is made of digits need not be a number: some characters only look
like digits, and a numeral may be too long to be read.
-/

namespace PaneLayout

theorem wholeText_ok {n : Int} (short : n.natAbs < Nat.pow 10 digitLimit) :
    ∃ text, wholeText n = .ok text :=
  ⟨toString n, by rw [wholeText, if_pos short]⟩

/-! ### Outputs -/

/-- What a server printed is made of characters that look like digits, and yet
no split can be sized with it. -/
inductive DynamicSizing.ChokesOn (sizing : DynamicSizing) (output : String) :
    Fault → Prop where
  | malformed :
      (∀ c ∈ trimBlanks output.toList, looksLikeDigit c) →
      (∃ c ∈ trimBlanks output.toList, isDecimalDigit c = false) →
      ChokesOn sizing output .malformedNumeral
  | tooLong :
      (∀ c ∈ trimBlanks output.toList, looksLikeDigit c) →
      digitLimit < (trimBlanks output.toList).length →
      ChokesOn sizing output .numeralTooLong
  /-- The cells that the weights share are beyond the range of doubles. -/
  | tooMany {cells : Int} {cause : Fault} :
      Replay.paneCells output = .ok (some cells) →
      2 ^ 1022 < |cells - sizing.remainingCells| →
      sizing.targetCells cells = .error cause →
      ChokesOn sizing output cause

/-- An error that is reported as a failure of the execution. -/
def ReplayError.IsReported (error : ReplayError) : Prop :=
  ∃ failure, error.problem = .failure failure ∧ failure.stage = "execution"

namespace Replay

theorem paneCells_ok {output : String} {cells : Int}
    (read : paneCells output = .ok (some cells)) :
    0 ≤ cells ∧ cells.natAbs < Nat.pow 10 digitLimit := by
  unfold paneCells at read
  dsimp only at read
  split at read
  · cases isNumeral : readDigits (trimBlanks output.toList) with
    | error cause =>
        rw [isNumeral] at read
        cases read
    | ok n =>
        rw [isNumeral] at read
        cases read
        exact ⟨Int.natCast_nonneg n, readDigits_lt isNumeral⟩
  · cases read

theorem chokesOn_of_unread (sizing : DynamicSizing) {output : String}
    {cause : Fault} (failed : paneCells output = .error cause) :
    sizing.ChokesOn output cause := by
  unfold paneCells at failed
  dsimp only at failed
  split at failed
  · next digits =>
    rw [Bool.and_eq_true, Bool.not_eq_true', List.isEmpty_eq_false_iff,
      List.all_eq_true] at digits
    obtain ⟨nonempty, look⟩ := digits
    cases read : readDigits (trimBlanks output.toList) with
    | ok n =>
        rw [read] at failed
        cases failed
    | error known =>
        rw [read] at failed
        cases failed
        rcases readDigits_error nonempty read with ⟨rfl, stray⟩ | ⟨rfl, long⟩
        · exact .malformed look stray
        · exact .tooLong look long
  · cases failed

/-- What comes of an output that should give the size of a pane. -/
inductive SizeOutcome (request : ReplayRequest) (sizing : DynamicSizing)
    (output : String) : Except ReplayError String → Prop where
  | resolved {cells : Int} {split : CellSplit} {size : String} :
      paneCells output = .ok (some cells) →
      sizing.resolve (some cells) = .ok split →
      wholeText split.created = .ok size →
      SizeOutcome request sizing output (.ok size)
  | placeholder : request.isDryRun = true →
      SizeOutcome request sizing output (.ok dynamicSizePlaceholder)
  | unresolved {error : ReplayError} {failure : Failure} :
      request.isDryRun = false → error.problem = .failure failure →
      failure.stage = "execution" →
      failure.code = "SPLIT_SIZE_RESOLUTION_FAILED" →
      SizeOutcome request sizing output (.error error)
  | choked {cause : Fault} : sizing.ChokesOn output cause →
      SizeOutcome request sizing output (.error (.fault cause))

/-- A size that is unresolved is reported, unless it counts as open. -/
theorem SizeOutcome.of_unresolved {request : ReplayRequest}
    {stepId output : String} {sizing : DynamicSizing} {cells : Option Int}
    {error : SizeError}
    (reported : ∃ message, sizing.problem cells stepId error =
      .failure (sizing.sizeFailure cells stepId message)) :
    SizeOutcome request sizing output
      (if request.isDryRun then .ok dynamicSizePlaceholder
        else .error (.unresolvedSize sizing cells error stepId)) := by
  obtain ⟨message, isFailure⟩ := reported
  split
  · next dry => exact .placeholder dry
  · next wet =>
    exact .unresolved (Bool.eq_false_of_not_eq_true wet) isFailure rfl rfl

/-- A size is found, or that it is not found is reported, unless the output
cannot be read or the numbers are beyond the range of doubles. -/
theorem sizeText_outcome {sizing : DynamicSizing} (planned : sizing.IsPlanned)
    (request : ReplayRequest) (stepId output : String) :
    SizeOutcome request sizing output
      (sizeText request stepId sizing output) := by
  unfold sizeText
  cases read : paneCells output with
  | error cause => exact .choked (chokesOn_of_unread sizing read)
  | ok cells =>
      dsimp only [resolvedSize]
      cases cells with
      | none =>
          exact .of_unresolved (sizing.problem_unknownSize none stepId)
      | some cells =>
          obtain ⟨nonneg, short⟩ := paneCells_ok read
          have resolves := sizing.resolves cells
          generalize resolved : sizing.resolve (some cells) = result
            at resolves
          cases resolves with
          | @split target _ _ least created =>
              obtain ⟨text, written⟩ := @wholeText_ok (cells - target)
                (lt_of_le_of_lt (by omega) short)
              dsimp only
              rw [written]
              exact .resolved read resolved written
          | unknown =>
              exact .of_unresolved (sizing.problem_unknownSize _ stepId)
          | tooSmall =>
              obtain ⟨text, written⟩ := wholeText_ok short
              exact .of_unresolved (sizing.problem_tooSmall written stepId)
          | @fault cause positive faults =>
              refine .choked (.tooMany read ?_ faults)
              by_contra few
              obtain ⟨target, isTarget, _⟩ := planned.exists_targetCells
                (show 1022 < 1023 by norm_num) (not_lt.mp few)
              cases isTarget.symm.trans faults

/-- The outcome of a query for a size is that of the output it is answered
with. -/
theorem dynamicSize_outcome {sizing : DynamicSizing}
    (planned : sizing.IsPlanned) (request : ReplayRequest) (stepId : String)
    {orientation : Orientation} {target output : String} {State : Type}
    {server : Server State} {state : State}
    (answered : (server.step (sizeQuery orientation target) state).1 =
      .ok output)
    (consent : List String → Option Value) :
    ∃ result,
      ((dynamicSize request stepId orientation sizing target).run server
        consent state).ending.result? = some result ∧
      SizeOutcome request sizing output result := by
  refine ⟨_, ?_, sizeText_outcome planned request stepId output⟩
  rw [dynamicSize_eq, perform, Session.send_bind, Session.run_send, answered]
  dsimp only [Session.ok_bind]
  cases sizeText request stepId sizing output <;> rfl

end Replay

end PaneLayout
